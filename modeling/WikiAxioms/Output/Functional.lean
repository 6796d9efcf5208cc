import WikiAxioms.Output.Backend
import WikiAxioms.Output.Literal
import WikiAxioms.Output.Settings

/-!
# Axioms in functional syntax

A constraint becomes one axiom of OWL 2, which is a term: a name, a literal, or a functor applied
to terms. Axioms are built as terms and written in one way, so that what a constraint means is
decided before any character of it is.
-/

namespace WikiAxioms.Output

inductive Term where
  | name (text : Text)
  /-- A quoted literal, with the name of its datatype if it is not a plain one. -/
  | literal (content : Text) (datatype : Option Text)
  | apply (functor : Text) (arguments : List Term)

namespace Term

mutual

/-- A term as it is written. -/
def text : Term → Text
  | name text => text
  | literal content none => quote lineEscapes content
  | literal content (some datatype) => quote lineEscapes content ++ ['^', '^'] ++ datatype
  | apply functor arguments => functor ++ ['('] ++ textOfList arguments ++ [')']

/-- Terms with a blank between them. -/
def textOfList : List Term → Text
  | [] => []
  | [t] => t.text
  | t :: u :: ts => t.text ++ [' '] ++ textOfList (u :: ts)

end

end Term

/-- The name of an entity under an abbreviation of its namespace. -/
def entityTerm (abbreviation : Text) {kind : EntityKind} (id : EntityId kind) : Term :=
  .name (abbreviation ++ [':'] ++ id.text)

/-- The class of all things. -/
def thing : Term := .name "owl:Thing"

def decimalType : Text := "xsd:decimal"

section Expressions

variable (abbreviation : Text)

/-- Things that are related by the property `role` to something in `filler`. -/
def someValuesFrom (role filler : Term) : Term := .apply "ObjectSomeValuesFrom" [role, filler]

/-- Things with some value of a property. -/
def hasSome (p : PropertyId) : Term := someValuesFrom (entityTerm abbreviation p) thing

/-- Things that are a value of a property. -/
def valueOf (p : PropertyId) : Term :=
  someValuesFrom (.apply "ObjectInverseOf" [entityTerm abbreviation p]) thing

/-- Things with a given value of a property. -/
def hasValue (p : PropertyId) (q : ItemId) : Term :=
  .apply "ObjectHasValue" [entityTerm abbreviation p, entityTerm abbreviation q]

/-- The class of the given things. -/
def oneOf (items : List ItemId) : Term :=
  .apply "ObjectOneOf" (items.map (entityTerm abbreviation))

/-- Things with a property, with a given value of it if one is given. -/
def carries (p : PropertyId) : Option ItemId → Term
  | none => hasSome abbreviation p
  | some q => hasValue abbreviation p q

/-- Things with a property, except the given ones. -/
def hasSomeExcept (p : PropertyId) : List ItemId → Term
  | [] => hasSome abbreviation p
  | q :: qs =>
    .apply "ObjectIntersectionOf"
      [hasSome abbreviation p, .apply "ObjectComplementOf" [oneOf abbreviation (q :: qs)]]

/-- Things with one of the given values of a property, or with any if none are given. -/
def hasSomeOf (p : PropertyId) : List ItemId → Term
  | [] => hasSome abbreviation p
  | q :: qs => someValuesFrom (entityTerm abbreviation p) (oneOf abbreviation (q :: qs))

def subClassOf (narrow wide : Term) : Term := .apply "SubClassOf" [narrow, wide]

def bound (d : Decimal) : Term := .literal d.text (some decimalType)

/-- Decimals between two bounds. -/
def decimalsBetween (min max : Decimal) : Term :=
  .apply "DatatypeRestriction"
    [.name decimalType, .name "xsd:minInclusive", bound min, .name "xsd:maxInclusive", bound max]

/-- Texts that match a pattern. -/
def textsMatching (pattern : Text) : Term :=
  .apply "DatatypeRestriction" [.name "xsd:string", .name "xsd:pattern", .literal pattern none]

/-- The axiom for a rule on the property `p`; some kinds have none. -/
def axiomOf? (p : PropertyId) : Rule → Option Term
  | .type members .instanceOf =>
    some (.apply "ObjectPropertyDomain"
      [entityTerm abbreviation p, entityTerm abbreviation members])
  | .type members .subclassOf =>
    some (subClassOf (hasSome abbreviation p)
      (hasValue abbreviation Membership.subclassOf.property members))
  | .valueType members .instanceOf =>
    some (.apply "ObjectPropertyRange" [entityTerm abbreviation p, entityTerm abbreviation members])
  | .valueType members .subclassOf =>
    some (subClassOf (valueOf abbreviation p)
      (hasValue abbreviation Membership.subclassOf.property members))
  | .singleValue => some (.apply "FunctionalObjectProperty" [entityTerm abbreviation p])
  | .uniqueValue => some (.apply "InverseFunctionalObjectProperty" [entityTerm abbreviation p])
  | .symmetric => some (.apply "SymmetricObjectProperty" [entityTerm abbreviation p])
  | .inverse q =>
    some (.apply "InverseObjectProperties" [entityTerm abbreviation p, entityTerm abbreviation q])
  | .format pattern =>
    some (.apply "DataPropertyRange" [entityTerm abbreviation p, textsMatching pattern])
  | .oneOf values =>
    some (.apply "ObjectPropertyRange" [entityTerm abbreviation p, oneOf abbreviation values])
  | .range min max =>
    some (.apply "DataPropertyRange" [entityTerm abbreviation p, decimalsBetween min max])
  | .targetRequiredClaim required item =>
    some (subClassOf (valueOf abbreviation p) (carries abbreviation required item))
  | .item required item exceptions =>
    some (subClassOf (hasSomeExcept abbreviation p exceptions) (carries abbreviation required item))
  | .conflictsWith conflicting values =>
    some (.apply "DisjointClasses"
      [hasSome abbreviation p, hasSomeOf abbreviation conflicting values])
  | .multiValue => none
  | .existingFile => none
  | .diffWithinRange .. => none
  | .qualifiers _ => none

end Expressions

/-- Kinds that have an axiom. -/
def hasAxiom : Kind → Bool
  | .multiValue => false
  | .existingFile => false
  | .diffWithinRange => false
  | .qualifiers => false
  | _ => true

/-- A line that declares an abbreviation of a namespace. -/
def abbreviationLine (abbreviation expansion : Text) : Text :=
  "Prefix(" ++ abbreviation ++ ":=<" ++ expansion ++ ">)\n"

def functionalName : Text := "functional"

/-- Axioms in functional syntax, one a line. -/
def functional (settings : RenderSettings) : Backend where
  name := functionalName
  supports := hasAxiom
  prelude :=
    if settings.prelude then
      some (abbreviationLine settings.abbreviation settings.entityNamespace ++
        abbreviationLine "owl" "http://www.w3.org/2002/07/owl#" ++
        abbreviationLine "xsd" "http://www.w3.org/2001/XMLSchema#")
    else none
  append _ c buffer :=
    match axiomOf? settings.abbreviation c.property c.rule with
    | none => (.error ⟨c.kind, functionalName⟩, buffer)
    | some t =>
      let buffer := buffer ++ t.text
      (.ok (), buffer ++ ['\n'])

end WikiAxioms.Output
