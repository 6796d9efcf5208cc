import WikiAxioms.Text.Basic

/-!
# Quoted text

Texts in quotes, on one line or on several, with or without escape sequences. A small machine reads
them character by character, so that each kind of text is one table of steps.
-/

namespace WikiAxioms.Toml

/-- Which characters may stand where text is written as it is. -/
def isPlain (c : Char) : Bool := c == '\t' || (0x20 ≤ c.toNat && c.toNat != 0x7F)

structure Quoting where
  quote : Char
  /-- Between three quotes at either end, over several lines. -/
  isLong : Bool
  /-- Whether a backslash starts an escape sequence. -/
  hasEscapes : Bool

/-- What the machine is about to read. -/
inductive Phase where
  | plain
  /-- After a backslash. -/
  | escape
  /-- Hexadecimal digits, of which `left` are to come. -/
  | hex (left value : Nat)
  /-- Blanks between a backslash and the end of its line. -/
  | gap
  /-- Blanks and line ends after such a line. -/
  | trim
  /-- The line feed of a line end, which counts for nothing where lines are trimmed. -/
  | lineFeed (trimming : Bool)
  /-- Quotes of a long text, of which `n` were read. -/
  | quotes (n : Nat)

inductive Step where
  | fail
  | next (phase : Phase) (out : Text)
  /-- The text ends with this character, or before it. -/
  | done (out : Text) (before : Bool)

/-- The character that a letter after a backslash stands for. -/
def escapedBy? : Char → Option Char
  | 'b' => some '\x08'
  | 't' => some '\t'
  | 'n' => some '\n'
  | 'f' => some '\x0c'
  | 'r' => some '\r'
  | '"' => some '"'
  | '\\' => some '\\'
  | _ => none

def hexDigit? (c : Char) : Option Nat :=
  if c.isDigit then some (c.toNat - '0'.toNat)
  else if 'a' ≤ c ∧ c ≤ 'f' then some (c.toNat - 'a'.toNat + 10)
  else if 'A' ≤ c ∧ c ≤ 'F' then some (c.toNat - 'A'.toNat + 10)
  else none

/-- A step on a character with no context. -/
def plainStep (q : Quoting) (out : Text) (c : Char) : Step :=
  if c = q.quote then if q.isLong then .next (.quotes 1) out else .done out false
  else if c = '\\' ∧ q.hasEscapes then .next .escape out
  else if c = '\n' ∧ q.isLong then .next .plain (out ++ ['\n'])
  else if c = '\r' ∧ q.isLong then .next (.lineFeed false) out
  else if isPlain c then .next .plain (out ++ [c])
  else .fail

/-- A step on the rest of a line that a backslash ends. -/
def gapStep (c : Char) : Step :=
  if c = ' ' ∨ c = '\t' then .next .gap []
  else if c = '\n' then .next .trim []
  else if c = '\r' then .next (.lineFeed true) []
  else .fail

def escapeStep (q : Quoting) (c : Char) : Step :=
  if c = 'u' then .next (.hex 4 0) []
  else if c = 'U' then .next (.hex 8 0) []
  else match escapedBy? c with
    | some d => .next .plain [d]
    | none => if q.isLong then gapStep c else .fail

def hexStep (left value : Nat) (c : Char) : Step :=
  match hexDigit? c with
  | none => .fail
  | some d =>
    let value := 16 * value + d
    if 1 < left then .next (.hex (left - 1) value) []
    else if h : value.isValidChar then .next .plain [Char.ofNatAux value h]
    else .fail

/-- Three quotes end a long text; up to two more in front of them belong to it. -/
def quoteStep (q : Quoting) (n : Nat) (c : Char) : Step :=
  if c = q.quote then if n = 4 then .done [q.quote, q.quote] false else .next (.quotes (n + 1)) []
  else if 3 ≤ n then .done (List.replicate (n - 3) q.quote) true
  else plainStep q (List.replicate n q.quote) c

def step (q : Quoting) (phase : Phase) (c : Char) : Step :=
  match phase with
  | .plain => plainStep q [] c
  | .escape => escapeStep q c
  | .hex left value => hexStep left value c
  | .gap => gapStep c
  | .trim =>
    if c = ' ' ∨ c = '\t' ∨ c = '\n' then .next .trim []
    else if c = '\r' then .next (.lineFeed true) []
    else plainStep q [] c
  | .lineFeed trimming =>
    if c ≠ '\n' then .fail else if trimming then .next .trim [] else .next .plain ['\n']
  | .quotes n => quoteStep q n c

/-- Runs the machine from a phase up to the end of the text: its contents, and what follows. -/
def readFrom (q : Quoting) (phase : Phase) : Text → Option (Text × Text)
  | [] =>
    match phase with
    | .quotes n => if 3 ≤ n then some (List.replicate (n - 3) q.quote, []) else none
    | _ => none
  | c :: t =>
    match step q phase c with
    | .fail => none
    | .done out before => some (out, if before then c :: t else t)
    | .next phase out => (readFrom q phase t).map (Prod.map (out ++ ·) id)

/-- Drops a line end at the start, which counts for nothing in a long text. -/
def dropLineEnd : Text → Text
  | '\n' :: t => t
  | '\r' :: '\n' :: t => t
  | t => t

/-- Reads a text in quotes on one line. -/
def readShort : Text → Option (Text × Text)
  | '"' :: t => readFrom ⟨'"', false, true⟩ .plain t
  | '\'' :: t => readFrom ⟨'\'', false, false⟩ .plain t
  | _ => none

/-- Reads a text in quotes. -/
def readQuoted : Text → Option (Text × Text)
  | '"' :: '"' :: '"' :: t => readFrom ⟨'"', true, true⟩ .plain (dropLineEnd t)
  | '\'' :: '\'' :: '\'' :: t => readFrom ⟨'\'', true, false⟩ .plain (dropLineEnd t)
  | t => readShort t

end WikiAxioms.Toml
