import WikiAxioms.Constraint

/-!
# Backends

A backend knows one output syntax. It appends the text of a constraint to a buffer, in one piece or
in several, or refuses the kinds it has no form for; what it refuses is known beforehand.
-/

namespace WikiAxioms.Output

/-- A backend has no form for constraints of a kind. -/
structure Unsupported where
  kind : Kind
  backend : Text
  deriving DecidableEq

def Unsupported.message (u : Unsupported) : Text :=
  "the " ++ u.backend ++ " backend cannot render " ++ u.kind.templateName ++ " constraints"

structure Backend where
  name : Text
  supports : Kind → Bool
  /-- Text that is written once, in front of the first constraint. -/
  prelude : Option Text
  /-- Appends a constraint, which is the `ordinal`-th to be written, to a buffer. -/
  append : (ordinal : Nat) → Constraint → (buffer : Text) → Except Unsupported Unit × Text

end WikiAxioms.Output
