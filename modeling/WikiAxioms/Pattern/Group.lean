import WikiAxioms.Pattern.Spacing
import WikiAxioms.Pattern.Tree
import WikiAxioms.Text.Alphabetic

/-!
# Openings of groups

What stands between an opening parenthesis and the contents of the group: a name, flags, or nothing.
-/

namespace WikiAxioms.Pattern

inductive Opening where
  /-- A group that takes part in the numbering. -/
  | plain
  | named (name : Text)
  /-- A group under changed flags, without a number. -/
  | under (flags : Flags)
  /-- No group, but a change of flags. -/
  | change (flags : Flags)

def Flag.ofChar? : Char → Option Flag
  | 'i' => some .caseInsensitive
  | 'm' => some .multiLine
  | 's' => some .dotMatchesNewLine
  | 'U' => some .swapGreed
  | 'u' => some .unicode
  | 'R' => some .carriageReturn
  | 'x' => some .ignoreBlanks
  | _ => none

/-- Reads flags up to the sign that ends them, which it yields too. `changes` are those read so far;
`negated` says whether a dash stands among them, and `dangling` whether it stands last. -/
def readFlags (changes : Flags) (negated dangling : Bool) :
    Text → Except Fault (Flags × Char × Text)
  | [] => .error .flagCutOff
  | c :: t =>
    if c = ':' ∨ c = ')' then
      if dangling then .error .flagDangling else .ok (changes, c, t)
    else if c = '-' then
      if negated then .error .negationRepeated else readFlags changes true true t
    else match Flag.ofChar? c with
      | none => .error .flagUnknown
      | some flag =>
        if changes.any (·.1 = flag) then .error .flagRepeated
        else readFlags (changes ++ [(flag, !negated)]) negated false t

/-- Whether a character may stand in a name, at its start or further on. -/
def isNameCharacter (isFirst : Bool) (c : Char) : Bool :=
  if isFirst then c == '_' || isAlphabetic c
  else c == '_' || c == '.' || c == '[' || c == ']' || isAlphanumeric c

/-- Reads the characters of a name up to the angle that ends it. -/
def readName (isFirst : Bool) : Text → Except Fault (Text × Text)
  | [] => .error .nameCutOff
  | c :: t =>
    if c = '>' then .ok ([], t)
    else if isNameCharacter isFirst c then (readName false t).map (Prod.map (c :: ·) id)
    else .error .nameCharacter

/-- Reads the name of a group that must not be one of the names in use. -/
def readGroupName (names : List Text) (t : Text) : Except Fault (Opening × Text) := do
  let (name, rest) ← readName true t
  if name = [] then throw .nameEmpty
  if names.contains name then throw .nameRepeated
  return (.named name, rest)

/-- Reads what follows an opening parenthesis, up to the contents of the group. -/
def readOpening (names : List Text) : Text → Except Fault (Opening × Text)
  | '?' :: '=' :: _ => .error .lookAround
  | '?' :: '!' :: _ => .error .lookAround
  | '?' :: '<' :: '=' :: _ => .error .lookAround
  | '?' :: '<' :: '!' :: _ => .error .lookAround
  | '?' :: 'P' :: '<' :: t => readGroupName names t
  | '?' :: '<' :: t => readGroupName names t
  | '?' :: [] => .error .groupUnclosed
  | '?' :: t => do
    let (flags, ending, rest) ← readFlags [] false false t
    if ending = ':' then return (.under flags, rest)
    else if flags = [] then throw .repetitionMissing
    else return (.change flags, rest)
  | t => .ok (.plain, t)

end WikiAxioms.Pattern
