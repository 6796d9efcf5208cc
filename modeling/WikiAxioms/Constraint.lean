import WikiAxioms.Decimal

/-!
# Constraints

A constraint lays one rule on the use of one property. There are sixteen kinds of rule, and each
rule carries exactly the data of its kind.
-/

namespace WikiAxioms

/-- How a thing has to belong to a class. -/
inductive Membership where
  | instanceOf
  | subclassOf
  deriving DecidableEq, Repr

namespace Membership

def keyword : Membership → Text
  | .instanceOf => "instance"
  | .subclassOf => "subclass"

def ofKeyword (t : Text) : Option Membership :=
  if t = keyword .instanceOf then some .instanceOf
  else if t = keyword .subclassOf then some .subclassOf
  else none

/-- The property whose statements express the membership. -/
def property : Membership → PropertyId
  | .instanceOf => .instanceOf
  | .subclassOf => .subclassOf

end Membership

inductive Kind where
  | type
  | valueType
  | singleValue
  | uniqueValue
  | multiValue
  | symmetric
  | existingFile
  | inverse
  | format
  | oneOf
  | range
  | diffWithinRange
  | targetRequiredClaim
  | item
  | conflictsWith
  | qualifiers
  deriving DecidableEq, Repr

namespace Kind

/-- Every kind once, in the order in which kinds are listed and counted. -/
def all : List Kind :=
  [type, valueType, singleValue, uniqueValue, multiValue, symmetric, existingFile, inverse, format,
    oneOf, range, diffWithinRange, targetRequiredClaim, item, conflictsWith, qualifiers]

/-- The place of a kind in `all`. -/
def rank (k : Kind) : Nat := all.idxOf k

instance : Ord Kind := ⟨fun a b => compare a.rank b.rank⟩

/-- The name under which wiki pages declare constraints of a kind. -/
def templateName : Kind → Text
  | type => "Type"
  | valueType => "Value type"
  | singleValue => "Single value"
  | uniqueValue => "Unique value"
  | multiValue => "Multi value"
  | symmetric => "Symmetric"
  | existingFile => "Existing file"
  | inverse => "Inverse"
  | format => "Format"
  | oneOf => "One of"
  | range => "Range"
  | diffWithinRange => "Diff within range"
  | targetRequiredClaim => "Target required claim"
  | item => "Item"
  | conflictsWith => "Conflicts with"
  | qualifiers => "Qualifiers"

/-- The name of a kind in the terms of the constraint vocabulary. -/
def camelName : Kind → Text
  | type => "Type"
  | valueType => "ValueType"
  | singleValue => "SingleValue"
  | uniqueValue => "UniqueValue"
  | multiValue => "MultiValue"
  | symmetric => "Symmetric"
  | existingFile => "ExistingFile"
  | inverse => "Inverse"
  | format => "Format"
  | oneOf => "OneOf"
  | range => "Range"
  | diffWithinRange => "DiffWithinRange"
  | targetRequiredClaim => "TargetRequiredClaim"
  | item => "Item"
  | conflictsWith => "ConflictsWith"
  | qualifiers => "Qualifiers"

end Kind

inductive Rule where
  /-- What has the property belongs to the class. -/
  | type (members : ItemId) (membership : Membership)
  /-- The values of the property belong to the class. -/
  | valueType (members : ItemId) (membership : Membership)
  | singleValue
  | uniqueValue
  | multiValue
  | symmetric
  /-- The values are names of files that exist. -/
  | existingFile
  | inverse (property : PropertyId)
  /-- The values match a regular expression. -/
  | format (pattern : Text)
  | oneOf (values : List ItemId)
  | range (min max : Decimal)
  /-- The value less the value of `base` lies between the bounds. -/
  | diffWithinRange (base : PropertyId) (min max : Decimal)
  /-- The values have the property `required`, with the value `item` if one is named. -/
  | targetRequiredClaim (required : PropertyId) (item : Option ItemId)
  /-- What has the property also has `required`, with the value `item` if one is named, unless it
  is one of the exceptions. -/
  | item (required : PropertyId) (item : Option ItemId) (exceptions : List ItemId)
  /-- What has the property lacks `conflicting`, or lacks the given values of it if any are. -/
  | conflictsWith (conflicting : PropertyId) (values : List ItemId)
  /-- Statements of the property have no other qualifiers. -/
  | qualifiers (allowed : List PropertyId)
  deriving DecidableEq

def Rule.kind : Rule → Kind
  | .type .. => .type
  | .valueType .. => .valueType
  | .singleValue => .singleValue
  | .uniqueValue => .uniqueValue
  | .multiValue => .multiValue
  | .symmetric => .symmetric
  | .existingFile => .existingFile
  | .inverse _ => .inverse
  | .format _ => .format
  | .oneOf _ => .oneOf
  | .range .. => .range
  | .diffWithinRange .. => .diffWithinRange
  | .targetRequiredClaim .. => .targetRequiredClaim
  | .item .. => .item
  | .conflictsWith .. => .conflictsWith
  | .qualifiers _ => .qualifiers

structure Constraint where
  property : PropertyId
  rule : Rule
  deriving DecidableEq

def Constraint.kind (c : Constraint) : Kind := c.rule.kind

end WikiAxioms
