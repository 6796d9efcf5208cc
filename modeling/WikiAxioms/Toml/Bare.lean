import WikiAxioms.Toml.Item
import WikiAxioms.Toml.Quoted

/-!
# Values without quotes

Truth values, numbers, dates and times. Such a value is a run of letters, digits and a few signs,
and the whole run must be of one of the forms.
-/

namespace WikiAxioms.Toml

def isBare (c : Char) : Bool :=
  c.isAlphanum || c == '+' || c == '-' || c == '_' || c == '.' || c == ':'

/-- Digits without the single underscores that may stand between them. -/
def digits? (isDigit : Char → Bool) : Text → Option Text
  | [] => none
  | [c] => if isDigit c then some [c] else none
  | c :: '_' :: t => if isDigit c then (digits? isDigit t).map (c :: ·) else none
  | c :: t => if isDigit c then (digits? isDigit t).map (c :: ·) else none

/-- Digits without a needless zero in front. -/
def wholeDigits? : Text → Option Text
  | '0' :: _ :: _ => none
  | t => digits? Char.isDigit t

/-- The number that digits write in a base. -/
def numeral (base : Nat) (ds : Text) : Nat :=
  ds.foldl (fun n c => base * n + (hexDigit? c).getD 0) 0

/-- The sign in front of a number, and the rest of it. -/
def splitSign : Text → Bool × Text
  | '-' :: t => (true, t)
  | '+' :: t => (false, t)
  | t => (false, t)

def signed (negative : Bool) (n : Nat) : Int := if negative then -(n : Int) else n

/-- A whole number, if it fits into sixty-four bits. -/
def bounded (n : Int) : Option Scalar :=
  if -9223372036854775808 ≤ n ∧ n ≤ 9223372036854775807 then some (.integer n) else none

/-- A whole number, decimal or in the base that its first two characters say. -/
def integer? : Text → Option Scalar
  | '0' :: 'x' :: t => do bounded (numeral 16 (← digits? (fun c => (hexDigit? c).isSome) t))
  | '0' :: 'o' :: t => do bounded (numeral 8 (← digits? (fun c => '0' ≤ c && c ≤ '7') t))
  | '0' :: 'b' :: t => do bounded (numeral 2 (← digits? (fun c => c == '0' || c == '1') t))
  | t => do bounded (signed (splitSign t).1 (numeral 10 (← wholeDigits? (splitSign t).2)))

/-- The exponent after its letter. -/
def exponent? (t : Text) : Option Int := do
  let ds ← digits? Char.isDigit (splitSign t).2
  return signed (splitSign t).1 (numeral 10 ds)

/-- A floating-point number. One too large on the positive side is refused, one too large on the
negative side is infinite. -/
def float? (t : Text) : Option Scalar := do
  let (negative, t) := splitSign t
  if t = "inf" then return .float (.infinite negative)
  if t = "nan" then return .float .notANumber
  let isMark (c : Char) : Bool := c == '.' || c == 'e' || c == 'E'
  let whole ← wholeDigits? (t.takeWhile (!isMark ·))
  let (fraction, t) ← match t.dropWhile (!isMark ·) with
    | '.' :: t => do
      pure (← digits? Char.isDigit (t.takeWhile (!isMark ·)), t.dropWhile (!isMark ·))
    | [] => none
    | t => some ([], t)
  let e ← match t with
    | [] => some 0
    | c :: t => if c = '.' then none else exponent? t
  let x := Binary64.ofDecimal negative (numeral 10 (whole ++ fraction)) (e - fraction.length)
  if x = .infinite false then none else return .float x

/-- A number of exactly `n` digits, with the rest of the text. -/
def takeNumber (n : Nat) (t : Text) : Option (Nat × Text) :=
  if (t.take n).length = n ∧ (t.take n).all Char.isDigit then some (numeral 10 (t.take n), t.drop n)
  else none

def isLeap (year : Nat) : Bool := year % 4 == 0 && (year % 100 != 0 || year % 400 == 0)

def daysIn (year month : Nat) : Nat :=
  if month = 2 then if isLeap year then 29 else 28
  else if month = 4 ∨ month = 6 ∨ month = 9 ∨ month = 11 then 30
  else 31

/-- What follows a sign. -/
def afterSign (c : Char) : Text → Option Text
  | d :: t => if d = c then some t else none
  | [] => none

/-- Reads a date; yields what follows it. -/
def date? (t : Text) : Option Text := do
  let (year, t) ← takeNumber 4 t
  let (month, t) ← takeNumber 2 (← afterSign '-' t)
  let (day, t) ← takeNumber 2 (← afterSign '-' t)
  guard (1 ≤ month ∧ month ≤ 12 ∧ 1 ≤ day ∧ day ≤ daysIn year month)
  return t

/-- Reads hours and minutes; yields what follows them. -/
def minutes? (t : Text) : Option Text := do
  let (hour, t) ← takeNumber 2 t
  let (minute, t) ← takeNumber 2 (← afterSign ':' t)
  guard (hour < 24 ∧ minute < 60)
  return t

/-- Reads a time of day, in which a leap second may stand; yields what follows it. -/
def time? (t : Text) : Option Text := do
  let t ← minutes? t
  let (second, t) ← takeNumber 2 (← afterSign ':' t)
  guard (second ≤ 60)
  match t with
  | '.' :: t => if (t.takeWhile Char.isDigit).isEmpty then none else some (t.dropWhile Char.isDigit)
  | t => some t

/-- A time of day, perhaps with its distance from universal time, and nothing else. -/
def isTime (t : Text) : Bool :=
  match time? t with
  | none => false
  | some [] => true
  | some (c :: t) =>
    if c = 'Z' ∨ c = 'z' then t.isEmpty
    else (c == '+' || c == '-') && minutes? t == some []

/-- A date, a time of day, or a date with a time. -/
def moment? (t : Text) : Option Scalar :=
  match date? t with
  | none => if time? t = some [] then some .moment else none
  | some [] => some .moment
  | some (c :: t) => if (c = 'T' ∨ c = 't') ∧ isTime t then some .moment else none

def boolean? (t : Text) : Option Scalar :=
  if t = "true" then some (.boolean true) else if t = "false" then some (.boolean false) else none

/-- The value that a run of characters writes. -/
def bare? (t : Text) : Option Scalar :=
  boolean? t <|> moment? t <|> integer? t <|> float? t

/-- What follows the time of day that stands one blank after a date, if one does. -/
def dropTime (t : Text) : Text :=
  match t with
  | ' ' :: rest => if isTime (rest.takeWhile isBare) then rest.dropWhile isBare else t
  | _ => t

/-- Reads a value without quotes. -/
def readBare (t : Text) : Option (Scalar × Text) := do
  let run := t.takeWhile isBare
  let rest := t.dropWhile isBare
  let value ← bare? run
  return (value, if date? run = some [] then dropTime rest else rest)

end WikiAxioms.Toml
