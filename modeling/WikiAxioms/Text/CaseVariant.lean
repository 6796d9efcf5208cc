import WikiAxioms.Text.Ranges
import WikiAxioms.Text.UpperCase

/-!
# Variants in case

Which code points differ in case only, one code point against another one.
-/

namespace WikiAxioms

/-- Pairs whose upper cases differ, or are several characters. -/
def otherCasePairs : List (Nat × Nat) :=
  [(0x6B, 0x212A), (0xE5, 0x212B), (0x3C9, 0x2126), (0xDF, 0x1E9E), (0x398, 0x3F4),
   (0x390, 0x1FD3), (0x3B0, 0x1FE3), (0x1FB3, 0x1FBC), (0x1FC3, 0x1FCC), (0x1FF3, 0x1FFC),
   (0xFB05, 0xFB06)] ++
    [0x1F80, 0x1F90, 0x1FA0].flatMap fun first =>
      (List.range 8).map fun i => (first + i, first + 8 + i)

/-- The dotless i, which is no variant of the other ones. -/
def dotlessI : Nat := 0x131

/-- Each code point that differs from its upper case, together with that one. -/
def casePairs : List (Nat × Nat) :=
  otherCasePairs ++ upperStretches.flatMap fun (first, last, step, distance) =>
    if first = dotlessI then []
    else (List.range ((last - first) / step + 1)).map fun i =>
      (first + i * step, (first + i * step + distance).toNat)

namespace CodePointRanges

/-- Adds what is paired with a member. -/
def addPaired (pairs : List (Nat × Nat)) (ranges : CodePointRanges) : CodePointRanges :=
  union ranges <| pairs.flatMap fun (lower, upper) =>
    (if ranges.holds lower then [(upper, upper)] else []) ++
      if ranges.holds upper then [(lower, lower)] else []

/-- Adds all variants in case. Two rounds suffice: at most a common upper case stands between. -/
def addCaseVariants (ranges : CodePointRanges) : CodePointRanges :=
  addPaired casePairs (addPaired casePairs ranges)

/-- Adds the variants in case of the letters in ASCII. -/
def addAsciiVariants (ranges : CodePointRanges) : CodePointRanges :=
  addPaired ((List.range 26).map fun i => (0x61 + i, 0x41 + i)) ranges

end CodePointRanges

end WikiAxioms
