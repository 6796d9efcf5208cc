import WikiAxioms.Pattern.Spacing
import WikiAxioms.Pattern.Tree

/-!
# Escape sequences

What a backslash and the characters after it stand for.
-/

namespace WikiAxioms.Pattern

/-- Characters that mean something of their own in a pattern. -/
def isMeta (c : Char) : Bool := "\\.+*?()|[]\x7b\x7d^$#&-~".toList.contains c

/-- Whether a backslash makes a character stand for itself: those with a meaning, and all other
ASCII characters but letters, digits and angles. -/
def isEscapable (c : Char) : Bool :=
  isMeta c || (c.toNat < 0x80 && !c.isAlphanum && c != '<' && c != '>')

/-- The control character that a letter after a backslash names. -/
def controlOf? : Char → Option Char
  | 'a' => some '\x07'
  | 'f' => some '\x0c'
  | 't' => some '\t'
  | 'n' => some '\n'
  | 'r' => some '\r'
  | 'v' => some '\x0b'
  | _ => none

/-- The class that a letter after a backslash names. -/
def shorthandOf? : Char → Option Atom
  | 'd' => some (.shorthand .digit false)
  | 's' => some (.shorthand .space false)
  | 'w' => some (.shorthand .word false)
  | 'D' => some (.shorthand .digit true)
  | 'S' => some (.shorthand .space true)
  | 'W' => some (.shorthand .word true)
  | _ => none

/-- The number of hexadecimal digits after a letter that asks for them. -/
def hexDigitsOf? : Char → Option Nat
  | 'x' => some 2
  | 'u' => some 4
  | 'U' => some 8
  | _ => none

/-- The character with a number, if it is the number of one. -/
def characterOf (digits : Text) : Except Fault Char :=
  if h : (numeral 16 digits).isValidChar then .ok (Char.ofNatAux _ h) else .error .hexNoCharacter

/-- Reads exactly `n` hexadecimal digits. -/
def takeHex (spaced : Bool) : Nat → Text → Except Fault (Text × Text)
  | 0, t => .ok ([], t)
  | _ + 1, [] => .error .escapeCutOff
  | n + 1, c :: t =>
    if isHexDigit c then (takeHex spaced n (skip spaced t)).map (Prod.map (c :: ·) id)
    else .error .hexDigit

/-- Reads the hexadecimal number of a character, of `n` digits or in braces. -/
def readHex (spaced : Bool) (n : Nat) (t : Text) : Except Fault (Atom × Text) :=
  match skip spaced t with
  | '\x7b' :: t =>
    let (digits, rest) := takeRun spaced isHexDigit (skip spaced t)
    match rest with
    | [] => .error .escapeCutOff
    | '\x7d' :: rest =>
      if digits = [] then .error .hexEmpty
      else do return (.letter ⟨← characterOf digits, false⟩, skip spaced rest)
    | _ => .error .hexDigit
  | t => do
    let (digits, rest) ← takeHex spaced n t
    return (.letter ⟨← characterOf digits, n == 2⟩, rest)

/-- The test that stands between braces: a property alone, or a property and a value with a sign
between them, which can negate the test once more. -/
def propertyTest (t : Text) (negated : Bool) : Atom :=
  match t.cutAt "!=" with
  | some (name, value) => .property (.valued name value) !negated
  | none =>
    match t.cutAt ":" with
    | some (name, value) => .property (.valued name value) negated
    | none =>
      match t.cutAt "=" with
      | some (name, value) => .property (.valued name value) negated
      | none => .property (.named t) negated

/-- Reads the name of a property, of one letter or in braces. -/
def readProperty (spaced negated : Bool) (t : Text) : Except Fault (Atom × Text) :=
  match skip spaced t with
  | [] => .error .escapeCutOff
  | '\x7b' :: t =>
    let (name, rest) := takeRun spaced (· != '\x7d') (skip spaced t)
    match rest with
    | [] => .error .escapeCutOff
    | _ :: rest => .ok (propertyTest name negated, rest)
  | '\\' :: _ => .error .propertyForm
  | c :: t => .ok (.property (.named [c]) negated, skip spaced t)

def isBoundaryCharacter (c : Char) : Bool := c.isAlpha || c == '-'

/-- Reads what may follow the sign for the edge of a word: one of four words in braces. Braces
without a letter or dash in front are left for a count. -/
def readBoundary (spaced : Bool) (t : Text) : Except Fault (Atom × Text) :=
  match t with
  | '\x7b' :: inner =>
    match skip spaced inner with
    | [] => .error .boundaryCutOff
    | c :: cs =>
      if isBoundaryCharacter c then
        let (word, rest) := takeRun spaced isBoundaryCharacter (c :: cs)
        match rest with
        | '\x7d' :: rest =>
          if word = "start" ∨ word = "end" ∨ word = "start-half" ∨ word = "end-half" then
            .ok (.edge, rest)
          else .error .boundaryUnknown
        | _ => .error .boundaryUnclosed
      else .ok (.edge, t)
  | _ => .ok (.edge, t)

/-- Reads what follows a backslash. -/
def readEscape (spaced : Bool) : Text → Except Fault (Atom × Text)
  | [] => .error .escapeCutOff
  | c :: t =>
    if c.isDigit then .error .backreference
    else match hexDigitsOf? c with
      | some n => readHex spaced n t
      | none =>
        if c = 'p' ∨ c = 'P' then readProperty spaced (c = 'P') t
        else match shorthandOf? c with
          | some atom => .ok (atom, t)
          | none =>
            if isEscapable c then .ok (.letter ⟨c, false⟩, t)
            else match controlOf? c with
              | some control => .ok (.letter ⟨control, false⟩, t)
              | none =>
                if c = 'b' then readBoundary spaced t
                else if c = 'A' ∨ c = 'z' ∨ c = 'B' ∨ c = '<' ∨ c = '>' then .ok (.edge, t)
                else .error .escapeUnknown

end WikiAxioms.Pattern
