import WikiAxioms.Catalog.Registry

/-!
# From declaration to constraint

Reading a declaration and building its constraint, in one step. Declarations are independent of
each other, so a list of them has a list of results.
-/

namespace WikiAxioms

open WikiAxioms.Markup WikiAxioms.Catalog

/-- Why a declaration declares no constraint. -/
inductive CompileFault where
  | syntactic (fault : SyntaxFault)
  | building (fault : BuildFault)
  deriving DecidableEq

def CompileFault.message : CompileFault → Text
  | .syntactic fault => fault.message
  | .building fault => fault.message

/-- The constraint that a declaration lays on a property, and the warnings on the way. -/
def compile (r : Registry) (property : PropertyId) (declaration : Text) :
    Except CompileFault Constraint × List Warning :=
  match Template.ofText declaration with
  | .error fault => (.error (.syntactic fault), [])
  | .ok template =>
    let (result, warnings) := r.build property template
    (result.mapError .building, warnings)

/-- The results of several declarations, in their order. -/
def compileAll (r : Registry) (declarations : List (PropertyId × Text)) :
    List (Except CompileFault Constraint) :=
  declarations.map fun d => (compile r d.1 d.2).1

end WikiAxioms
