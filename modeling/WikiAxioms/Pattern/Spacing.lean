import WikiAxioms.Pattern.Fault

/-!
# Blanks inside a pattern

Under the flag for it, white space and comments between the signs of a pattern count for nothing.
The readers here take a flag `spaced` for that and otherwise read character by character.
-/

namespace WikiAxioms.Pattern

/-- Drops white space and comments; `inside` says whether a comment is under way. -/
def skipRemarks (inside : Bool) : Text → Text
  | [] => []
  | c :: t =>
    if inside then skipRemarks (c != '\n') t
    else if isSpace c then skipRemarks false t
    else if c = '#' then skipRemarks true t
    else c :: t

/-- Drops what counts for nothing at the head of a pattern. -/
def skip (spaced : Bool) (t : Text) : Text := if spaced then skipRemarks false t else t

theorem skipRemarks_length (inside : Bool) (t : Text) :
    (skipRemarks inside t).length ≤ t.length := by
  induction t generalizing inside with
  | nil => exact Nat.le_refl _
  | cons c t ih =>
    unfold skipRemarks
    repeat' split
    · exact Nat.le_succ_of_le (ih _)
    · exact Nat.le_succ_of_le (ih _)
    · exact Nat.le_succ_of_le (ih _)
    · exact Nat.le_refl _

theorem skip_length (spaced : Bool) (t : Text) : (skip spaced t).length ≤ t.length := by
  unfold skip
  split
  · exact skipRemarks_length false t
  · exact Nat.le_refl _

/-- The characters with a property up to the first one without it, and what follows them. -/
def takeRun (spaced : Bool) (p : Char → Bool) : Text → Text × Text
  | [] => ([], [])
  | c :: t =>
    if p c then (takeRun spaced p (skip spaced t)).map (c :: ·) id
    else ([], c :: t)
termination_by t => t.length
decreasing_by exact Nat.lt_succ_of_le (skip_length spaced t)

/-- The character after the one at hand, blanks left out. A comment is skipped only up to its first
character that is not blank. -/
def peekAfter (spaced : Bool) (t : Text) : Option Char :=
  if spaced then
    let rest := match t.dropWhile isSpace with
      | '#' :: comment => comment.dropWhile isSpace
      | rest => rest
    if rest = [] then t.head? else rest.head?
  else t.head?

def isHexDigit (c : Char) : Bool :=
  c.isDigit || ('a' ≤ c && c ≤ 'f') || ('A' ≤ c && c ≤ 'F')

def hexValue (c : Char) : Nat :=
  if c.isDigit then c.toNat - '0'.toNat
  else c.toLower.toNat - 'a'.toNat + 10

/-- The number that digits write in a base. -/
def numeral (base : Nat) (digits : Text) : Nat :=
  digits.foldl (fun n c => base * n + hexValue c) 0

/-- The largest number of times that a repetition can ask for, the greatest one of 32 bits. -/
def countLimit : Nat := 4294967295

/-- Reads a count. That there is none, or too large a one, is for the caller to mind. -/
def readCount (spaced : Bool) (t : Text) : Except Fault Nat × Text :=
  let (digits, rest) := takeRun spaced Char.isDigit (t.dropWhile isSpace)
  let count :=
    if digits = [] then .error .countEmpty
    else if numeral 10 digits ≤ countLimit then .ok (numeral 10 digits)
    else .error .countTooLarge
  (count, rest.dropWhile isSpace)

end WikiAxioms.Pattern
