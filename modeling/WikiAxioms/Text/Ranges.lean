/-!
# Sets of code points

Properties of characters are given as lists of ranges of code points, both ends included. The
operations on sets yield ranges in order with gaps between them, whatever the ranges they get.
-/

namespace WikiAxioms

abbrev CodePointRanges := List (Nat × Nat)

namespace CodePointRanges

def holds (ranges : CodePointRanges) (n : Nat) : Bool := ranges.any fun r => r.1 ≤ n && n ≤ r.2

def contains (ranges : CodePointRanges) (c : Char) : Bool := ranges.holds c.toNat

/-- Joins a range with those after it, which are in order, as far as no gap lies between them. -/
def absorb (current : Nat × Nat) : CodePointRanges → CodePointRanges
  | [] => [current]
  | r :: ranges =>
    if r.1 ≤ current.2 + 1 then absorb (current.1, max current.2 r.2) ranges
    else current :: absorb r ranges

/-- The same set as ranges in order with gaps between them. -/
def normalize (ranges : CodePointRanges) : CodePointRanges :=
  match ranges.mergeSort fun r s => decide (r.1 ≤ s.1) with
  | [] => []
  | r :: ranges => absorb r ranges

def union (a b : CodePointRanges) : CodePointRanges := normalize (a ++ b)

def lastCodePoint : Nat := 0x10FFFF

/-- What ranges in order with gaps between them leave of the code points from `start` on. -/
def gaps (start : Nat) : CodePointRanges → CodePointRanges
  | [] => if start ≤ lastCodePoint then [(start, lastCodePoint)] else []
  | r :: ranges =>
    if start < r.1 then (start, r.1 - 1) :: gaps (r.2 + 1) ranges else gaps (r.2 + 1) ranges

def complement (a : CodePointRanges) : CodePointRanges := gaps 0 (normalize a)

def intersection (a b : CodePointRanges) : CodePointRanges :=
  complement (union (complement a) (complement b))

def difference (a b : CodePointRanges) : CodePointRanges := intersection a (complement b)

def symmetricDifference (a b : CodePointRanges) : CodePointRanges :=
  union (difference a b) (difference b a)

end CodePointRanges

end WikiAxioms
