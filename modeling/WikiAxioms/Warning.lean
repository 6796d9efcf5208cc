import WikiAxioms.Constraint

/-!
# Warnings

Things worth telling that do not stop the work. A warning is a value; who runs the work decides
where it is shown.
-/

namespace WikiAxioms

inductive Warning where
  /-- A declaration gives a parameter that its kind does not have. -/
  | unrecognizedParameter (property : PropertyId) (template key : Text)
  /-- A backend leaves out constraints of a kind. -/
  | unsupportedKind (kind : Kind) (backend : Text)
  deriving DecidableEq

end WikiAxioms
