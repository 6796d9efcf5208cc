import WikiAxioms.Catalog.Parameter

/-!
# The standard kinds

Which parameters each kind of constraint has, in the order in which they are read. Whether a
pattern is a regular expression is for `PatternCheck` to say, so that nothing here depends on how
that is found out.
-/

namespace WikiAxioms.Catalog

/-- Accepts a regular expression, or says why it refuses one. -/
abbrev PatternCheck := Text → Except Text Unit

/-- How to build the rule of a template, with a declaration that can be built. -/
structure Entry where
  sample : Text
  build : ParameterReader Rule

/-- The pattern without white space around it. -/
def patternOf (check : PatternCheck) (t : Text) : Except Reason Text :=
  match check t.trim with
  | .ok () => .ok t.trim
  | .error words => .error (.pattern words)

/-- Two bounds, the lower one first; the upper one is at fault if they are the wrong way round. -/
def bounds : ParameterReader (Decimal × Decimal) := do
  let min ← decimal "min"
  let max ← decimal "max"
  if compare min max = .gt then throw (.invalid "max" max.text (.belowMin min))
  return (min, max)

/-- Reads the rule of a kind. -/
def ruleReader (check : PatternCheck) : Kind → ParameterReader Rule
  | .type => do return .type (← item "class") (← membership "relation")
  | .valueType => do return .valueType (← item "class") (← membership "relation")
  | .singleValue => return .singleValue
  | .uniqueValue => return .uniqueValue
  | .multiValue => return .multiValue
  | .symmetric => return .symmetric
  | .existingFile => return .existingFile
  | .inverse => do return .inverse (← propertyId "property")
  | .format => do return .format (← parsed "pattern" (patternOf check))
  | .oneOf => do return .oneOf (← items "values")
  | .range => do
    let (min, max) ← bounds
    return .range min max
  | .diffWithinRange => do
    let base ← propertyId "base_property"
    let (min, max) ← bounds
    return .diffWithinRange base min max
  | .targetRequiredClaim => do
    return .targetRequiredClaim (← propertyId "property") (← optionalItem "item")
  | .item => do
    return .item (← propertyId "property") (← optionalItem "item") (← optionalItems "exceptions")
  | .conflictsWith => do
    return .conflictsWith (← propertyId "property") (← optionalItems "item")
  | .qualifiers => do return .qualifiers (← propertyList "list")

/-- The arguments of the sample declaration of a kind. -/
def sampleArguments : Kind → Text
  | .type => "|class=Q5|relation=instance"
  | .valueType => "|class=Q5|relation=instance"
  | .inverse => "|property=P40"
  | .format => "|pattern=[1-9]\\d*"
  | .oneOf => "|values=Q6581097, Q6581072"
  | .range => "|min=0|max=100"
  | .diffWithinRange => "|base_property=P569|min=0|max=150"
  | .targetRequiredClaim => "|property=P31"
  | .item => "|property=P31|item=Q5"
  | .conflictsWith => "|property=P31|item=Q4167410"
  | .qualifiers => "|list=P580, P582"
  | _ => []

/-- The title of the template that declares constraints of a kind. -/
def titleOf (kind : Kind) : Text := "Constraint:" ++ kind.templateName

def standardEntry (check : PatternCheck) (kind : Kind) : Entry where
  sample := "\x7b\x7b" ++ titleOf kind ++ sampleArguments kind ++ "\x7d\x7d"
  build := ruleReader check kind

end WikiAxioms.Catalog
