import WikiAxioms.Text.Basic

/-!
# Floating-point numbers of sixty-four bits

A decimal numeral is read as the nearest number `m · 2 ^ q` with `m` below `2 ^ 53`, and a number is
written with the fewest digits that read back as it. All arithmetic is exact.
-/

namespace WikiAxioms

inductive Binary64 where
  /-- `mantissa · 2 ^ exponent`, with a mantissa of 53 bits unless the exponent is the least one. -/
  | finite (negative : Bool) (mantissa : Nat) (exponent : Int)
  | infinite (negative : Bool)
  | notANumber
  deriving DecidableEq

namespace Binary64

def leastExponent : Int := -1074

def greatestExponent : Int := 971

/-- Mantissas are smaller than this. -/
def mantissaBound : Nat := Nat.pow 2 53

/-- The positive fraction `num / den` times `b ^ e`, as a numerator and a denominator. -/
def scale (num den b : Nat) (e : Int) : Nat × Nat :=
  if 0 ≤ e then (num * b.pow e.toNat, den) else (num, den * b.pow (-e).toNat)

/-- The quotient rounded to the nearest whole number, a half to the even one. -/
def roundHalfEven (num den : Nat) : Nat :=
  let q := num / den
  let r := 2 * (num % den)
  if r < den then q else if den < r then q + 1 else q + q % 2

/-- The number nearest to the positive fraction `num / den`. -/
def nearest (negative : Bool) (num den : Nat) : Binary64 :=
  let guess : Int := max leastExponent ((num.log2 : Int) - den.log2 - 53)
  let parts := scale num den 2 (-guess)
  let e := if parts.1 / parts.2 < mantissaBound then guess else guess + 1
  let parts := scale num den 2 (-e)
  let m := roundHalfEven parts.1 parts.2
  let (m, e) := if m = mantissaBound then (mantissaBound / 2, e + 1) else (m, e)
  if greatestExponent < e then infinite negative else finite negative m e

/-- The number nearest to `digits · 10 ^ e`. Powers far beyond all numbers are not worked out. -/
def ofDecimal (negative : Bool) (digits : Nat) (e : Int) : Binary64 :=
  let size : Int := (Nat.toDigits 10 digits).length + e
  if digits = 0 ∨ size < -400 then finite negative 0 leastExponent
  else if 400 < size then infinite negative
  else
    let (num, den) := scale digits 1 10 e
    nearest negative num den

/-- The whole number `digits` is enough if `digits · 10 ^ e` lies within `low` and `high`, which are
counted in quarters of `2 ^ q`; the two ends count where `ends` says so. -/
def readsBack (low high : Nat) (q : Int) (ends : Bool) (digits : Nat) (e : Int) : Bool :=
  let (num, den) := scale digits 1 10 e
  let (num, den) := scale (4 * num) den 2 (-q)
  if ends then decide (low * den ≤ num ∧ num ≤ high * den)
  else decide (low * den < num ∧ num < high * den)

/-- Of the two neighbours of `num / den` on the grid of the multiples of `10 ^ e`, those that read
back, the nearer one first, and of two equally near ones the greater. -/
def neighbours (low high : Nat) (q : Int) (ends : Bool) (num den : Nat) (e : Int) : List Nat :=
  let (n, d) := scale num den 10 (-e)
  let below := n / d
  let both := if 2 * (n % d) < d then [below, below + 1] else [below + 1, below]
  both.filter (readsBack low high q ends · e)

/-- The fewest digits that read back, with the power of ten they count. The grid gets finer step by
step, and `fuel` steps are left; the last one always succeeds. -/
def shortestFrom (low high : Nat) (q : Int) (ends : Bool) (num den : Nat) : Nat → Int → Nat × Int
  | 0, e => (num / den, e)
  | fuel + 1, e =>
    match neighbours low high q ends num den e with
    | digits :: _ => (digits, e)
    | [] => shortestFrom low high q ends num den fuel (e - 1)

/-- The fewest digits that read back as `m · 2 ^ q`, with the power of ten they count. -/
def shortest (m : Nat) (q : Int) : Nat × Int :=
  let (num, den) := scale m 1 2 q
  let low := if m = mantissaBound / 2 ∧ leastExponent < q then 4 * m - 1 else 4 * m - 2
  let size : Int := if den ≤ num then (Nat.toDigits 10 (num / den)).length else
    1 - (Nat.toDigits 10 (den / num)).length
  shortestFrom low (4 * m + 2) q (m % 2 = 0) num den 20 size

/-- Whole and fractional digits of `digits · 10 ^ e`, with at least one of each. -/
def positional (digits : Nat) (e : Int) : Text :=
  let ds := Nat.toDigits 10 digits
  if 0 ≤ e then ds ++ List.replicate e.toNat '0' ++ ['.', '0']
  else
    let places := (-e).toNat
    let ds := List.replicate (places + 1 - ds.length) '0' ++ ds
    let fraction := (ds.drop (ds.length - places)).reverse.dropWhile (· == '0')
    ds.take (ds.length - places) ++ '.' :: (if fraction = [] then ['0'] else fraction.reverse)

def sign (negative : Bool) : Text := if negative then ['-'] else []

/-- The number without an exponent, and with a point in any case. -/
def text : Binary64 → Text
  | finite negative 0 _ => sign negative ++ "0.0"
  | finite negative m q =>
    let (digits, e) := shortest m q
    sign negative ++ positional digits e
  | infinite negative => sign negative ++ "inf"
  | notANumber => "NaN"

end Binary64

end WikiAxioms
