import WikiAxioms.Text.Basic

/-!
# Settings of the output

How entities and the vocabulary of constraints are named in the output.
-/

namespace WikiAxioms.Output

structure RenderSettings where
  /-- What stands for the namespace of entities in axioms, before a colon. -/
  abbreviation : Text
  entityNamespace : Text
  vocabularyNamespace : Text
  /-- Whether axioms are preceded by declarations of the abbreviations. -/
  prelude : Bool
  deriving DecidableEq

def RenderSettings.default : RenderSettings where
  abbreviation := "wd"
  entityNamespace := "http://www.wikidata.org/entity/"
  vocabularyNamespace := "http://www.wikidata.org/constraints/v1#"
  prelude := false

end WikiAxioms.Output
