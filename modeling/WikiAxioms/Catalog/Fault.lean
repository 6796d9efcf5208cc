import WikiAxioms.Decimal

/-!
# Faults of the parameters of a declaration

A declaration that is a well-formed template can still fail to declare a constraint: its name may
be unknown, or a parameter may be missing, unfit or superfluous.
-/

namespace WikiAxioms.Catalog

/-- Why the value of a parameter does not fit. -/
inductive Reason where
  | emptyValue
  | emptyList
  | entity (fault : EntityId.Fault)
  | decimal (fault : Decimal.Fault)
  | membership
  /-- The pattern is no regular expression, for the given reason. -/
  | pattern (words : Text)
  /-- An upper bound lies below the lower one. -/
  | belowMin (min : Decimal)
  deriving DecidableEq

def Reason.message : Reason → Text
  | .emptyValue => "empty value"
  | .emptyList => "empty list"
  | .entity fault => fault.message
  | .decimal fault => fault.message
  | .membership => "expected 'instance' or 'subclass'"
  | .pattern words => words
  | .belowMin min => "smaller than min (" ++ min.text ++ ")"

inductive BuildFault where
  /-- No kind goes by the name, which is kept as written. -/
  | unknownKind (name : Text)
  | missing (key : Text)
  /-- The value is kept as written. -/
  | invalid (key value : Text) (reason : Reason)
  | unexpected (key : Text)
  deriving DecidableEq

def BuildFault.message : BuildFault → Text
  | .unknownKind name => "unknown constraint kind: " ++ name
  | .missing key => "missing parameter: " ++ key
  | .invalid key value reason =>
    "invalid value '" ++ value ++ "' for parameter " ++ key ++ ": " ++ reason.message
  | .unexpected key => "unexpected parameter: " ++ key

end WikiAxioms.Catalog
