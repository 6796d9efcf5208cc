import WikiAxioms.Output.Backend
import WikiAxioms.Output.Literal
import WikiAxioms.Output.Settings

/-!
# Triples

A constraint becomes a group of statements, one a line. The first two attach a blank node to the
property and say of which kind it is; the others say what the rule holds. The number of the blank
node is the ordinal of the constraint, so groups of one output never share a node.
-/

namespace WikiAxioms.Output

inductive Node where
  | iri (text : Text)
  | blank (number : Nat)
  /-- A quoted literal, with the IRI of its datatype if it is not a plain one. -/
  | literal (content : Text) (datatype : Option Text)
  deriving DecidableEq

def Node.text : Node → Text
  | .iri text => ['<'] ++ text ++ ['>']
  | .blank number => ['_', ':', 'c'] ++ Text.ofNat number
  | .literal content none => quote tripleEscapes content
  | .literal content (some datatype) =>
    quote tripleEscapes content ++ ['^', '^', '<'] ++ datatype ++ ['>']

structure Statement where
  subject : Node
  predicate : Text
  object : Node
  deriving DecidableEq

/-- A statement as a line. -/
def Statement.line (s : Statement) : Text :=
  s.subject.text ++ [' ', '<'] ++ s.predicate ++ ['>', ' '] ++ s.object.text ++ [' ', '.', '\n']

def rdfType : Text := "http://www.w3.org/1999/02/22-rdf-syntax-ns#type"

def decimalIri : Text := "http://www.w3.org/2001/XMLSchema#decimal"

section Groups

variable (settings : RenderSettings)

def entityNode {kind : EntityKind} (id : EntityId kind) : Node :=
  .iri (settings.entityNamespace ++ id.text)

def decimalNode (d : Decimal) : Node := .literal d.text (some decimalIri)

/-- A term of the vocabulary with an entity as its value. -/
def entityEntry (term : Text) {kind : EntityKind} (id : EntityId kind) : Text × Node :=
  (term, entityNode settings id)

/-- A term of the vocabulary with a number as its value. -/
def decimalEntry (term : Text) (d : Decimal) : Text × Node := (term, decimalNode d)

/-- What a rule says about its blank node: terms of the vocabulary with their values. -/
def entriesOf : Rule → List (Text × Node)
  | .type members membership =>
    [entityEntry settings "class" members, entityEntry settings "relation" membership.property]
  | .valueType members membership =>
    [entityEntry settings "class" members, entityEntry settings "relation" membership.property]
  | .singleValue => []
  | .uniqueValue => []
  | .multiValue => []
  | .symmetric => []
  | .existingFile => []
  | .inverse property => [entityEntry settings "inverseProperty" property]
  | .format pattern => [("pattern", .literal pattern none)]
  | .oneOf values => values.map (entityEntry settings "value")
  | .range min max => [decimalEntry "min" min, decimalEntry "max" max]
  | .diffWithinRange base min max =>
    [entityEntry settings "baseProperty" base, decimalEntry "min" min, decimalEntry "max" max]
  | .targetRequiredClaim required item =>
    entityEntry settings "requiredProperty" required ::
      item.toList.map (entityEntry settings "item")
  | .item required item exceptions =>
    entityEntry settings "requiredProperty" required ::
      (item.toList.map (entityEntry settings "item") ++
        exceptions.map (entityEntry settings "exception"))
  | .conflictsWith conflicting values =>
    entityEntry settings "conflictingProperty" conflicting ::
      values.map (entityEntry settings "value")
  | .qualifiers allowed => allowed.map (entityEntry settings "allowedQualifier")

/-- The IRI of a term of the vocabulary. -/
def vocabularyIri (term : Text) : Text := settings.vocabularyNamespace ++ term

/-- The statement that attaches the blank node of a constraint to a property. -/
def attachment (ordinal : Nat) (p : PropertyId) : Statement :=
  ⟨entityNode settings p, vocabularyIri settings "constraint", .blank ordinal⟩

/-- The statement that gives a blank node its class. -/
def typing (ordinal : Nat) (kind : Kind) : Statement :=
  ⟨.blank ordinal, rdfType, .iri (vocabularyIri settings (kind.camelName ++ "Constraint"))⟩

/-- The statement that makes an entry about a blank node. -/
def entryStatement (ordinal : Nat) (e : Text × Node) : Statement :=
  ⟨.blank ordinal, vocabularyIri settings e.1, e.2⟩

end Groups

/-- Every constraint as a group of statements, which are appended one by one. -/
def triples (settings : RenderSettings) : Backend where
  name := "ntriples"
  supports _ := true
  prelude := none
  append ordinal c buffer :=
    let buffer := buffer ++ (attachment settings ordinal c.property).line
    let buffer := buffer ++ (typing settings ordinal c.kind).line
    let push (buffer : Text) (e : Text × Node) : Text :=
      buffer ++ (entryStatement settings ordinal e).line
    (.ok (), (entriesOf settings c.rule).foldl push buffer)

end WikiAxioms.Output
