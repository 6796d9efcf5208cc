import WikiAxioms.Text.Basic
import WikiAxioms.Text.Ranges

/-!
# Code points spelled in bytes

In UTF-8 a range of code points is a list of sequences of ranges of bytes. Each sequence stands for
all ways to take one byte of each of its ranges, and no two sequences share a spelling.
-/

namespace WikiAxioms

abbrev ByteSequence := List (Nat × Nat)

/-- The spellings of the numbers from `first` to `last` in digits of base 64: a first byte, which is
`lead` and the first digit together, and `more` bytes that continue it. -/
def spell (lead : Nat) : Nat → Nat → Nat → List ByteSequence
  | 0, first, last => [[(lead + first, lead + last)]]
  | more + 1, first, last =>
    let block := Nat.pow 64 (more + 1)
    let low := first / block
    let high := last / block
    let under (low high : Nat) (rest : List ByteSequence) :=
      rest.map ((lead + low, lead + high) :: ·)
    if low = high then under low low (spell 0x80 more (first % block) (last % block))
    else
      let start := if first % block = 0 then []
        else under low low (spell 0x80 more (first % block) (block - 1))
      let stop := if last % block = block - 1 then []
        else under high high (spell 0x80 more 0 (last % block))
      let fullLow := if first % block = 0 then low else low + 1
      let fullHigh := if last % block = block - 1 then high else high - 1
      let full := if fullLow ≤ fullHigh then under fullLow fullHigh (spell 0x80 more 0 (block - 1))
        else []
      start ++ full ++ stop

/-- The code points of each length in bytes: the lead of the first byte, the number of bytes that
continue it, and the first and the last of the code points. Surrogates have no spelling. -/
def spellings : List (Nat × Nat × Nat × Nat) :=
  [(0, 0, 0, 0x7F), (0xC0, 1, 0x80, 0x7FF), (0xE0, 2, 0x800, 0xD7FF), (0xE0, 2, 0xE000, 0xFFFF),
   (0xF0, 3, 0x10000, 0x10FFFF)]

/-- The sequences that spell a set, in order where its ranges are. -/
def CodePointRanges.byteSequences (ranges : CodePointRanges) : List ByteSequence :=
  ranges.flatMap fun r => spellings.flatMap fun (lead, more, first, last) =>
    if max first r.1 ≤ min last r.2 then spell lead more (max first r.1) (min last r.2) else []

/-- The largest number of bytes that spell a code point. -/
def longestSpelling : Nat := 4

/-- What follows each of the first ranges of bytes. Equal ones stand together in sequences that are
in order. -/
def continuations (sequences : List ByteSequence) : List (List ByteSequence) :=
  ((sequences.filter (· ≠ [])).splitBy fun s t => s.head? == t.head?).map (·.map List.tail)

/-- The number of beginnings that sequences of at most `n` bytes have, other than the empty one. -/
def beginnings : Nat → List ByteSequence → Nat
  | 0, _ => 0
  | n + 1, sequences =>
    let rest := continuations sequences
    rest.length + total (rest.map (beginnings n))

/-- All that can remain of sequences of at most `n` bytes after a beginning, as long as something
does. -/
def remainders : Nat → List ByteSequence → List (List ByteSequence)
  | 0, _ => []
  | n + 1, sequences =>
    if sequences.all (· = []) then []
    else sequences :: (continuations sequences).flatMap (remainders n)

end WikiAxioms
