import WikiAxioms.Markup.Template
import WikiAxioms.Markup.SyntaxFault

/-!
# Declarations

A declaration is one template written between double braces, with white space around it at most.
Reading it takes three steps: tokens, fields between separators, template. `readFields` refuses the
first token that no declaration continues with, so the rest of the tokens tells where the fault is.
-/

namespace WikiAxioms.Markup

/-- What may stand where a fault was found. -/
inductive Expectation where
  | opening
  /-- Inside a field. -/
  | fieldEnd
  /-- Inside a link. -/
  | linkEnd
  | endOfInput
  deriving DecidableEq

def Expectation.words : Expectation → List Text
  | .opening => [Token.opening.describe]
  | .fieldEnd => [Token.linkOpening.describe, Token.pipe.describe, Token.closing.describe]
  | .linkEnd => [Token.linkClosing.describe]
  | .endOfInput => ["end of input"]

/-- The tokens from the first wrong one on, none if the end came too early. -/
structure Offence where
  rest : List Token
  expectation : Expectation
  deriving DecidableEq

/-- The tokens between two separators. -/
abbrev Field := List Token

/-- Tokens that carry text and nothing else. -/
def Token.isPlain : Token → Bool
  | .text _ => true
  | .char _ => true
  | .nowiki _ => true
  | _ => false

/-- Tokens that a link may hold: separators lose their meaning there. -/
def Token.fitsLink (t : Token) : Bool := t.isPlain || t == .equals || t == .pipe

/-- Tokens that a field may hold outside links; a closing of no link is plain text. -/
def Token.fitsField (t : Token) : Bool := t.isPlain || t == .equals || t == .linkClosing

/-- White space between a brace and the end of the text. -/
def Token.isPadding : Token → Bool
  | .text s => s.isBlank
  | _ => false

/-- The tokens after padding, if there is any. -/
def skipPadding : List Token → List Token
  | [] => []
  | t :: ts => if t.isPadding then ts else t :: ts

/-- The fields read so far and the tokens after the closing braces. -/
structure Reading where
  current : Field
  following : List Field
  rest : List Token
  deriving DecidableEq

/-- Puts a token in front of the field that a reading starts with. -/
def Reading.push (t : Token) (r : Reading) : Reading := { r with current := t :: r.current }

/-- Puts an empty field in front of a reading. -/
def Reading.separate (r : Reading) : Reading := ⟨[], r.current :: r.following, r.rest⟩

/-- Reads the fields up to the closing braces; `inLink` tells that a link is open. -/
def readFields (inLink : Bool) : List Token → Except Offence Reading
  | [] => .error ⟨[], if inLink then .linkEnd else .fieldEnd⟩
  | t :: ts =>
    if inLink then
      if t = .linkClosing then (readFields false ts).map (.push t)
      else if t.fitsLink then (readFields true ts).map (.push t)
      else .error ⟨t :: ts, .linkEnd⟩
    else if t = .linkOpening then (readFields true ts).map (.push t)
    else if t = .pipe then (readFields false ts).map .separate
    else if t = .closing then .ok ⟨[], [], ts⟩
    else if t.fitsField then (readFields false ts).map (.push t)
    else .error ⟨t :: ts, .fieldEnd⟩

/-- The fields of a declaration: the name first, then one for each separator. -/
def readDeclaration (ts : List Token) : Except Offence (Field × List Field) :=
  match skipPadding ts with
  | .opening :: ts =>
    match readFields false ts with
    | .error o => .error o
    | .ok r =>
      match skipPadding r.rest with
      | [] => .ok (r.current, r.following)
      | rest => .error ⟨rest, .endOfInput⟩
  | rest => .error ⟨rest, .opening⟩

/-- The text of a field: markers are dropped and brackets kept. -/
def contents (f : Field) : Text := f.flatMap Token.content

/-- The tokens before and after the first equals sign outside links. -/
def splitKey (inLink : Bool) : Field → Option (Field × Field)
  | [] => none
  | t :: ts =>
    if inLink then (splitKey (t != .linkClosing) ts).map fun parts => (t :: parts.1, parts.2)
    else if t = .equals then some ([], ts)
    else (splitKey (t == .linkOpening) ts).map fun parts => (t :: parts.1, parts.2)

/-- A value loses the white space around it, unless it is nothing else. -/
def trimValue (t : Text) : Text := if t.trim = [] then t else t.trim

/-- Adds the argument that a field declares; none if its key is blank. -/
def Template.addField? (t : Template) (f : Field) : Option Template :=
  match splitKey false f with
  | none => some (t.withPositional (trimValue (contents f)))
  | some (key, value) =>
    if (contents key).trim = [] then none
    else some (t.withNamed (contents key).trim (trimValue (contents value)))

/-- Adds the arguments of fields, the first of which starts at the byte `start`. -/
def Template.addFields (source : Text) (t : Template) (start : Nat) :
    List Field → Except SyntaxFault Template
  | [] => .ok t
  | f :: fs =>
    match t.addField? f with
    | none => .error (.ofSpan source ⟨start, start + sizeOfTokens f⟩ .emptyKey [])
    | some t => addFields source t (start + sizeOfTokens f + Token.pipe.size) fs

/-- The template of the fields, the name of which starts at the byte `start`. -/
def Template.ofFields (source : Text) (start : Nat) (name : Field) (fields : List Field) :
    Except SyntaxFault Template :=
  if (contents name).trim = [] then
    .error (.ofSpan source ⟨start, start + sizeOfTokens name⟩ .emptyName [])
  else
    addFields source (.ofName (contents name).trim) (start + sizeOfTokens name + Token.pipe.size)
      fields

/-- The fault of an offence: it stands as many bytes before the end as the rest has. -/
def Offence.fault (source : Text) (o : Offence) : SyntaxFault :=
  let start := source.byteLength - sizeOfTokens o.rest
  match o.rest with
  | [] => .ofSpan source ⟨start, start⟩ .unexpectedEnd o.expectation.words
  | t :: _ => .ofSpan source ⟨start, start + t.size⟩ (.unexpected t) o.expectation.words

/-- The byte at which the name of a declaration starts. -/
def nameStart (ts : List Token) : Nat :=
  sizeOfTokens ts - sizeOfTokens (skipPadding ts) + Token.opening.size

/-- Reads a declaration. -/
def Template.ofText (source : Text) : Except SyntaxFault Template :=
  if source.isBlank then
    .error (.ofSpan source ⟨0, source.byteLength⟩ .emptyDeclaration Expectation.opening.words)
  else
    let ts := tokens source
    match readDeclaration ts with
    | .error o => .error (o.fault source)
    | .ok (name, fields) => Template.ofFields source (nameStart ts) name fields

end WikiAxioms.Markup
