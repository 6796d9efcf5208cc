import WikiAxioms.Entity

/-!
# Exact decimal numbers

A decimal is kept as its digits, in the one form that has no needless zeros, so that equality of
decimals is equality of numbers and no precision is ever lost.
-/

namespace WikiAxioms

/-- Digits that write a natural number without needless zeros in front. -/
def isWhole (t : Text) : Bool := t == ['0'] || isNumeral t

structure Decimal where
  negative : Bool
  integer : Text
  fraction : Text
  whole : isWhole integer = true
  digits : fraction.all Char.isDigit = true
  /-- The fraction does not end in a zero. -/
  tight : fraction.getLast? ≠ some '0'
  /-- Zero has no sign. -/
  signed : negative = true → ¬ (integer = ['0'] ∧ fraction = [])
  deriving DecidableEq

namespace Decimal

/-- The text, kept as it was given, writes no decimal number. -/
structure Fault where
  raw : Text
  deriving DecidableEq

def Fault.message (f : Fault) : Text := "'" ++ f.raw ++ "' is not a decimal number"

/-- Drops needless zeros in front of an integer; nothing left means zero. -/
def wholeOf (t : Text) : Text :=
  match t.dropWhile (· == '0') with
  | [] => ['0']
  | c :: r => c :: r

/-- Drops needless zeros at the end of a fraction. -/
def fractionOf (t : Text) : Text := (t.reverse.dropWhile (· == '0')).reverse

theorem head_dropWhile {p : Char → Bool} {l r : Text} {c : Char} (h : l.dropWhile p = c :: r) :
    p c = false := by
  induction l with
  | nil => simp at h
  | cons a l ih =>
    rw [List.dropWhile_cons] at h
    split at h
    · exact ih h
    · next ha => cases h; simpa using ha

theorem all_dropWhile {p q : Char → Bool} {l : Text} (h : l.all q = true) :
    (l.dropWhile p).all q = true := by
  induction l with
  | nil => rfl
  | cons a l ih =>
    rw [List.dropWhile_cons]
    split
    · exact ih (by simp at h ⊢; exact h.2)
    · exact h

theorem isWhole_wholeOf {t : Text} (h : t.all Char.isDigit = true) :
    isWhole (wholeOf t) = true := by
  unfold wholeOf
  split
  · rfl
  · next c r hr =>
    have hc : c ≠ '0' := by simpa using head_dropWhile hr
    have hd : (c :: r).all Char.isDigit = true := hr ▸ all_dropWhile h
    simp only [isWhole, isNumeral, Bool.or_eq_true, Bool.and_eq_true, bne_iff_ne]
    exact Or.inr ⟨hc, hd⟩

theorem all_fractionOf {t : Text} (h : t.all Char.isDigit = true) :
    (fractionOf t).all Char.isDigit = true := by
  simp only [fractionOf, List.all_reverse]
  exact all_dropWhile (by simpa using h)

theorem getLast?_fractionOf (t : Text) : (fractionOf t).getLast? ≠ some '0' := by
  simp only [fractionOf, List.getLast?_reverse]
  cases h : t.reverse.dropWhile (· == '0') with
  | nil => simp
  | cons c r => simpa using head_dropWhile h

/-- The decimal with the given sign and digits before and after the point. -/
def ofDigits (negative : Bool) (before after : Text) (hb : before.all Char.isDigit = true)
    (ha : after.all Char.isDigit = true) : Decimal where
  negative := negative && !(wholeOf before == ['0'] && fractionOf after == [])
  integer := wholeOf before
  fraction := fractionOf after
  whole := isWhole_wholeOf hb
  digits := all_fractionOf ha
  tight := getLast?_fractionOf after
  signed := by
    intro h
    simp only [Bool.and_eq_true, Bool.not_eq_true', Bool.and_eq_false_iff, beq_eq_false_iff_ne] at h
    intro hz
    cases h.2 with
    | inl h => exact h hz.1
    | inr h => exact h hz.2

/-- The sign that a text starts with, and the rest. -/
def splitSign : Text → Bool × Text
  | '-' :: t => (true, t)
  | '+' :: t => (false, t)
  | t => (false, t)

/-- The digits before and after the first point. -/
def splitPoint (t : Text) : Text × Text := (t.cutAt ['.']).getD (t, [])

/-- Reads an optional sign and digits with at most one point before, among or after them. -/
def ofText (raw : Text) : Except Fault Decimal :=
  let signed := splitSign raw.trim
  let parts := splitPoint signed.2
  if h : parts.1.all Char.isDigit = true ∧ parts.2.all Char.isDigit = true then
    if parts.1 = [] ∧ parts.2 = [] then .error ⟨raw⟩
    else .ok (ofDigits signed.1 parts.1 parts.2 h.1 h.2)
  else .error ⟨raw⟩

def text (d : Decimal) : Text :=
  (if d.negative then ['-'] else []) ++ d.integer ++
    (if d.fraction = [] then [] else '.' :: d.fraction)

/-- Compares digits after the point; a missing digit is a zero. -/
def compareFractions : Text → Text → Ordering
  | [], [] => .eq
  | [], d :: s => (compare '0' d).then (compareFractions [] s)
  | c :: r, [] => (compare c '0').then (compareFractions r [])
  | c :: r, d :: s => (compare c d).then (compareFractions r s)

/-- Compares without regard to signs: a longer integer is larger, and integers of one length
compare digit by digit. -/
def compareMagnitude (a b : Decimal) : Ordering :=
  (compare a.integer.length b.integer.length).then
    ((compare a.integer b.integer).then (compareFractions a.fraction b.fraction))

protected def compare (a b : Decimal) : Ordering :=
  match a.negative, b.negative with
  | false, true => .gt
  | true, false => .lt
  | false, false => compareMagnitude a b
  | true, true => compareMagnitude b a

instance : Ord Decimal := ⟨Decimal.compare⟩

end Decimal

end WikiAxioms
