import WikiAxioms.Catalog.Fault
import WikiAxioms.Constraint
import WikiAxioms.Markup.Template

/-!
# Reading parameters

Constraints are built by readers that ask a template for parameters by key. Every key asked for is
noted, whether the template has it or not and whether its value fits or not, so that afterwards the
parameters nobody asked for are known.
-/

namespace WikiAxioms.Catalog

open WikiAxioms.Markup

/-- What a reader reads from: the constrained property and the declaration. -/
structure Request where
  property : PropertyId
  template : Template

/-- A computation that asks for parameters, may fail, and notes the keys it asked for. -/
abbrev ParameterReader (α : Type) := ReaderT Request (ExceptT BuildFault (StateM (List Text))) α

namespace ParameterReader

/-- The result on a request after the keys `asked`, and the keys asked for in the end. -/
def runFrom {α : Type} (r : ParameterReader α) (request : Request) (asked : List Text) :
    Except BuildFault α × List Text :=
  ((r.run request).run).run asked

end ParameterReader

/-- Identifiers may be written as links. -/
def unlink (t : Text) : Text :=
  (((t.trim.after? ['[', '[']).bind (·.before? [']', ']'])).getD t.trim).trim

/-- Commas and white space separate the entries of a list. -/
def isListSeparator (c : Char) : Bool := c == ',' || isSpace c

def entityOf (kind : EntityKind) (t : Text) : Except Reason (EntityId kind) :=
  (EntityId.ofText kind (unlink t)).mapError .entity

def decimalOf (t : Text) : Except Reason Decimal := (Decimal.ofText t).mapError .decimal

def membershipOf (t : Text) : Except Reason Membership :=
  match Membership.ofKeyword t.trim with
  | some m => .ok m
  | none => .error .membership

/-- Every entry, in order; the first unfit one decides the failure. -/
def entitiesOf (kind : EntityKind) (t : Text) : Except Reason (List (EntityId kind)) :=
  match (Text.runs isListSeparator t).mapM (entityOf kind) with
  | .error reason => .error reason
  | .ok [] => .error .emptyList
  | .ok ids => .ok ids

/-- The constrained property. -/
def constrained : ParameterReader PropertyId := do return (← read).property

/-- The value of a parameter as it stands in the template. -/
def look (key : Text) : ParameterReader (Option Text) := do
  modify fun asked => if key ∈ asked then asked else asked ++ [key]
  return (← read).template.get? key

/-- A value given for a key, or the fault of it. -/
def accept {α : Type} (key value : Text) : Except Reason α → ParameterReader α
  | .ok a => pure a
  | .error reason => throw (.invalid key value reason)

/-- The value of a parameter that has to be there and not blank. -/
def required (key : Text) : ParameterReader Text := do
  match ← look key with
  | none => throw (.missing key)
  | some value => if value.isBlank then throw (.invalid key value .emptyValue) else return value

/-- The value of a parameter that may be absent; a blank value counts as absent. -/
def optional (key : Text) : ParameterReader (Option Text) := do
  return (← look key).filter fun value => !value.isBlank

/-- The value of a mandatory parameter as `parse` understands it. -/
def parsed {α : Type} (key : Text) (parse : Text → Except Reason α) : ParameterReader α := do
  let value ← required key
  accept key value (parse value)

def item (key : Text) : ParameterReader ItemId := parsed key (entityOf .item)

def optionalItem (key : Text) : ParameterReader (Option ItemId) := do
  match ← optional key with
  | none => return none
  | some value => return some (← accept key value (entityOf .item value))

def propertyId (key : Text) : ParameterReader PropertyId := parsed key (entityOf .property)

def decimal (key : Text) : ParameterReader Decimal := parsed key decimalOf

def membership (key : Text) : ParameterReader Membership := parsed key membershipOf

/-- A mandatory list with one item at least. -/
def items (key : Text) : ParameterReader (List ItemId) := parsed key (entitiesOf .item)

/-- A list of items; absent or blank, it is empty. -/
def optionalItems (key : Text) : ParameterReader (List ItemId) := do
  match ← optional key with
  | none => return []
  | some value => accept key value (entitiesOf .item value)

/-- A mandatory list of properties; a blank value is the empty list. -/
def propertyList (key : Text) : ParameterReader (List PropertyId) := do
  match ← look key with
  | none => throw (.missing key)
  | some value =>
    if value.isBlank then return [] else accept key value (entitiesOf .property value)

/-- The parameters of a template that are not among the keys asked for: named ones in order, then
every positional one under its number. -/
def unrecognized (t : Template) (asked : List Text) : List Text :=
  t.named.keys.filter (fun key => !asked.contains key) ++
    (List.range t.positional.length).map fun i => '#' :: Text.ofNat (i + 1)

end WikiAxioms.Catalog
