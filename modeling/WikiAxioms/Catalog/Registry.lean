import WikiAxioms.Catalog.Name
import WikiAxioms.Catalog.Standard
import WikiAxioms.Markup.Declaration
import WikiAxioms.Warning

/-!
# The registry of kinds

A registry finds the entry for the name of a template, whatever the spelling of the name, and
builds the constraint that the template declares. What becomes of parameters that the entry does
not ask for is a matter of policy.
-/

namespace WikiAxioms.Catalog

open WikiAxioms.Markup

/-- What to do with parameters that nobody asked for. -/
inductive Policy where
  | ignore
  | warn
  | reject
  deriving DecidableEq, Repr

def Policy.name : Policy → Text
  | .ignore => "ignore"
  | .warn => "warn"
  | .reject => "reject"

/-- What policy makes of a constraint the declaration of which has unrecognized parameters. -/
def Policy.apply (policy : Policy) (request : Request) (keys : List Text) (c : Constraint) :
    Except BuildFault Constraint × List Warning :=
  match policy, keys with
  | .reject, key :: _ => (.error (.unexpected key), [])
  | .warn, keys =>
    (.ok c, keys.map (.unrecognizedParameter request.property request.template.name))
  | _, _ => (.ok c, [])

/-- Entries by normalized name, each name once. -/
structure Registry where
  entries : List (Text × Entry)
  policy : Policy

namespace Registry

def empty (policy : Policy) : Registry := ⟨[], policy⟩

def find? (r : Registry) (name : Text) : Option Entry := r.entries.lookup (normalizeName name)

def contains (r : Registry) (name : Text) : Bool := (r.find? name).isSome

/-- Sets the entry of a name; an entry that was there is replaced, which is told beside. -/
def register (r : Registry) (name : Text) (entry : Entry) : Bool × Registry :=
  let outcome := exchangeEntry (normalizeName name) entry r.entries
  (outcome.1.isSome, { r with entries := outcome.2 })

/-- What is replaced is what was found before. -/
theorem register_eq (r : Registry) (name : Text) (entry : Entry) :
    r.register name entry =
      (r.contains name, { r with entries := setEntry (normalizeName name) entry r.entries }) := by
  simp only [register, exchangeEntry_eq, contains, find?]

/-- The normalized names, in the order of their characters. -/
def names (r : Registry) : List Text :=
  (r.entries.map Prod.fst).mergeSort fun a b => (compare a b).isLE

/-- The registry of all standard kinds. -/
def standard (check : PatternCheck) (policy : Policy) : Registry :=
  Kind.all.foldl (fun r kind => (r.register kind.templateName (standardEntry check kind)).2)
    (empty policy)

/-- The template of the sample declaration under a name. -/
def acceptedShape (r : Registry) (name : Text) : Option Template :=
  (r.find? name).bind fun entry => (Template.ofText entry.sample).toOption

/-- Builds the constraint that a template declares on a property. -/
def build (r : Registry) (property : PropertyId) (template : Template) :
    Except BuildFault Constraint × List Warning :=
  match r.find? template.name with
  | none => (.error (.unknownKind template.name), [])
  | some entry =>
    let request : Request := ⟨property, template⟩
    match entry.build.runFrom request [] with
    | (.error fault, _) => (.error fault, [])
    | (.ok rule, asked) =>
      Policy.apply r.policy request (unrecognized template asked) ⟨property, rule⟩

end Registry

end WikiAxioms.Catalog
