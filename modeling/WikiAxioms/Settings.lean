import WikiAxioms.Catalog.Registry
import WikiAxioms.Output.Settings
import WikiAxioms.Text.Shown
import WikiAxioms.Toml.Document

/-!
# Settings

What can be set from outside, and how it is read from a TOML document: a section for the catalog and
one for the output, each of them and all of their fields optional. What does not fit is a `Misfit`
with the place where it stands.
-/

namespace WikiAxioms

open WikiAxioms.Catalog WikiAxioms.Output WikiAxioms.Toml

structure Settings where
  policy : Policy
  render : RenderSettings
  deriving DecidableEq

def Settings.default : Settings := ⟨.ignore, .default⟩

/-- Why an item is not what is expected at its place. -/
inductive Misfit.Cause where
  | unknownField (name : Text)
  | unknownPolicy (name : Text)
  | noPolicy
  | severalPolicies
  /-- Neither a text nor a table. -/
  | neitherTextNorTable
  /-- Something stands in a table or list that should be empty. -/
  | expectedEmpty (what : Text)
  | expectedTable (found : Text)
  | wrongType (found expected : Text)

structure Misfit where
  /-- The place, as far as it is known. -/
  span : Option Span
  cause : Misfit.Cause

/-- A word between the marks that quote words. -/
def quotedWord (t : Text) : Text := '\x60' :: t ++ ['\x60']

def Misfit.Cause.words : Misfit.Cause → Text
  | unknownField name =>
    "unknown field " ++ quotedWord name ++ ", expected " ++ quotedWord "builder" ++ " or " ++
      quotedWord "render"
  | unknownPolicy name =>
    "unknown variant " ++ quotedWord name ++ ", expected one of " ++ quotedWord "ignore" ++ ", " ++
      quotedWord "warn" ++ ", " ++ quotedWord "reject"
  | noPolicy => "wanted exactly 1 element, found 0 elements"
  | severalPolicies => "wanted exactly 1 element, more than 1 element"
  | neitherTextNorTable => "wanted string or table"
  | expectedEmpty what => "expected empty " ++ what
  | expectedTable found => "expected table, found " ++ found
  | wrongType found expected => "invalid type: " ++ found ++ ", expected " ++ expected

/-- A result of reading one item. -/
abbrev Fitting (α : Type) := Except Misfit α

/-- Gives a misfit the place of what it was found in, if its own is not known. -/
def located {α : Type} (span : Option Span) (r : Fitting α) : Fitting α :=
  r.mapError fun m => ⟨m.span.or span, m.cause⟩

def misfit {α : Type} (cause : Misfit.Cause) : Fitting α := .error ⟨none, cause⟩

/-- What an item is, as a message names it. -/
def describeItem : Item → Text
  | .scalar _ (.string t) => "string " ++ t.shown
  | .scalar _ (.integer n) => "integer " ++ quotedWord (toString n)
  | .scalar _ (.float x) => "floating point " ++ quotedWord x.text
  | .scalar _ (.boolean b) => "boolean " ++ quotedWord (if b then "true" else "false")
  | .scalar _ .moment => "map"
  | .array .. => "sequence"
  | .tables _ => "sequence"
  | .table _ => "map"

def wrongType {α : Type} (n : Item) (expected : Text) : Fitting α :=
  misfit (.wrongType (describeItem n) expected)

def readText (n : Item) : Fitting Text :=
  located n.span <| match n with
  | .scalar _ (.string t) => .ok t
  | n => wrongType n "a string"

def readBoolean (n : Item) : Fitting Bool :=
  located n.span <| match n with
  | .scalar _ (.boolean b) => .ok b
  | n => wrongType n "a boolean"

def policyNamed (name : Text) : Fitting Policy :=
  match [Policy.ignore, .warn, .reject].find? (·.name == name) with
  | some policy => .ok policy
  | none => misfit (.unknownPolicy name)

/-- Sees to it that the entry of a policy holds nothing. -/
def requireEmpty (n : Item) : Fitting Unit :=
  located n.span <| match n with
  | .table t => if t.entries.isEmpty then .ok () else misfit (.expectedEmpty "table")
  | .array _ items => if items.isEmpty then .ok () else misfit (.expectedEmpty "table")
  | .tables items => if items.isEmpty then .ok () else misfit (.expectedEmpty "array")
  | .scalar _ (.string _) => misfit (.expectedTable "string")
  | .scalar _ (.integer _) => misfit (.expectedTable "integer")
  | .scalar _ (.float _) => misfit (.expectedTable "float")
  | .scalar _ (.boolean _) => misfit (.expectedTable "boolean")
  | .scalar _ .moment => misfit (.expectedTable "datetime")

/-- Reads a policy: its name, or a table with its name for the only key and nothing in it. -/
def readPolicy (n : Item) : Fitting Policy :=
  located n.span <| match n with
  | .scalar _ (.string name) => policyNamed name
  | .table t =>
    match t.entries with
    | [] => misfit .noPolicy
    | [(key, content)] => do
      let policy ← located (some key.span) (policyNamed key.name)
      requireEmpty content
      return policy
    | _ => misfit .severalPolicies
  | _ => misfit .neitherTextNorTable

/-- A field of a section, with what its value does to the settings. -/
structure Field where
  name : Text
  set : Item → Settings → Fitting Settings

/-- Reads a section: a table with fields by name, others counting for nothing, or a list with the
fields in order. A date counts as a table without fields. -/
def readSection (title : Text) (fields : List Field) (s : Settings) (n : Item) : Fitting Settings :=
  let inOrder (items : List Item) : Fitting Settings :=
    (fields.zip items).foldlM (fun s pair => pair.1.set pair.2 s) s
  located n.span <| match n with
  | .table t =>
    t.entries.foldlM (fun s entry =>
      match fields.find? (·.name == entry.1.name) with
      | some field => located (entry.2.span.or (some entry.1.span)) (field.set entry.2 s)
      | none => .ok s) s
  | .array _ items => inOrder items
  | .tables items => inOrder (items.map .table)
  | .scalar _ .moment => .ok s
  | n => wrongType n ("struct " ++ title)

def catalogFields : List Field :=
  [⟨"unknown_parameters", fun n s => do return { s with policy := ← readPolicy n }⟩]

def renderFields : List Field :=
  [⟨"prefix", fun n s => do
      return { s with render := { s.render with abbreviation := ← readText n } }⟩,
    ⟨"entity_namespace", fun n s => do
      return { s with render := { s.render with entityNamespace := ← readText n } }⟩,
    ⟨"vocabulary_namespace", fun n s => do
      return { s with render := { s.render with vocabularyNamespace := ← readText n } }⟩,
    ⟨"prelude", fun n s => do
      return { s with render := { s.render with prelude := ← readBoolean n } }⟩]

/-- The sections, as fields of the whole document. -/
def sections : List Field :=
  [⟨"builder", fun n s => readSection "BuilderConfig" catalogFields s n⟩,
    ⟨"render", fun n s => readSection "RenderConfig" renderFields s n⟩]

/-- The settings in a document; what it does not set keeps its default. The first misfit counts. -/
def Settings.ofTable (t : Table) : Fitting Settings :=
  t.entries.foldlM (fun s entry =>
    match sections.find? (·.name == entry.1.name) with
    | some field => located (entry.2.span.or (some entry.1.span)) (field.set entry.2 s)
    | none => located (some entry.1.span) (misfit (.unknownField entry.1.name))) .default

/-- Why a text yields no settings. -/
inductive SettingsFault where
  /-- It is no TOML document. -/
  | malformed
  /-- It is one in which something does not fit. -/
  | unfit (text : Text) (fault : Misfit)

def Settings.ofText (t : Text) : Except SettingsFault Settings :=
  match Table.ofText t with
  | none => .error .malformed
  | some table => (Settings.ofTable table).mapError (.unfit t)

/-- The number of the line that holds a byte of a text, the line, and the part of it in front of the
byte, all counted from zero; the end of the text counts as belonging to its last line. -/
def lineOf (t : Text) (offset : Nat) : Nat × Text × Text :=
  let front := (t.takeBytes? (min offset (t.byteLength - 1))).getD []
  let number := front.count '\n'
  ((number, (t.lines[number]?).getD [], (front.lines.getLast?).getD []))

/-- The line in question, with marks under the part of it that a misfit is about. -/
def excerpt (t : Text) (span : Span) : Text :=
  let (number, line, front) := lineOf t span.first
  let column := front.length + (span.first - min span.first (t.byteLength - 1))
  let label := Text.ofNat (number + 1)
  let gutter := List.replicate (label.length + 1) ' '
  let marks := min (span.last - span.first) (line.byteLength - column)
  "TOML parse error at line " ++ label ++ ", column " ++ Text.ofNat (column + 1) ++ "\n" ++
    gutter ++ "|\n" ++ label ++ " | " ++ line ++ "\n" ++
    gutter ++ "|" ++ List.replicate (column + 1) ' ' ++ List.replicate (max 1 marks) '^' ++ "\n"

def Misfit.message (text : Text) (m : Misfit) : Text :=
  (match m.span with
    | some span => excerpt text span
    | none => []) ++ m.cause.words ++ "\n"

def SettingsFault.message : SettingsFault → Text
  | malformed => "Failed to parse config TOML"
  | unfit text fault => "Failed to parse config TOML: " ++ fault.message text

end WikiAxioms
