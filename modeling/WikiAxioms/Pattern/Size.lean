import WikiAxioms.Text.ByteSequence

/-!
# Sizes of automata

A pattern becomes two automata that read bytes of UTF-8: one runs forward and one backward over a
text. Their size is the memory that their states take.
-/

namespace WikiAxioms.Pattern

/-- The bytes that the two automata of a pattern take. -/
structure Size where
  forward : Nat
  backward : Nat

/-- The bytes of a state, which by itself reads one range of bytes or nothing. -/
def stateBytes : Nat := 32

/-- The bytes of a state that goes on to one of `n` others without reading. -/
def forkBytes (n : Nat) : Nat := stateBytes + 4 * n

/-- The bytes of a state that reads one of `n` ranges of bytes. -/
def branchBytes (n : Nat) : Nat := stateBytes + 8 * n

namespace Size

/-- The same size for either direction. -/
def both (n : Nat) : Size := ⟨n, n⟩

def plus (a b : Size) : Size := ⟨a.forward + b.forward, a.backward + b.backward⟩

def times (n : Nat) (a : Size) : Size := ⟨n * a.forward, n * a.backward⟩

def sum (sizes : List Size) : Size := sizes.foldr plus (both 0)

/-- A text is read byte by byte. -/
def ofText (t : Text) : Size := both (stateBytes * t.byteLength)

/-- One character out of ranges in order. Where all of them are ASCII, one state reads it. Else the
forward automaton shares states for equal remainders of spellings, and the backward one for equal
beginnings. -/
def ofRanges (ranges : CodePointRanges) : Size :=
  if ranges.all (·.2 < 0x80) then both (branchBytes ranges.length + stateBytes)
  else
    let sequences := ranges.byteSequences
    let rests := (remainders longestSpelling sequences).eraseDups
    let starts := beginnings longestSpelling sequences
    ⟨total (rests.map fun rest => branchBytes (continuations rest).length) + stateBytes,
      forkBytes sequences.length + stateBytes * starts + stateBytes⟩

end Size

/-- What follows a byte in the words that start with it. -/
def followers (byte : UInt8) (words : List (List UInt8)) : List (List UInt8) :=
  words.filterMap fun
    | first :: word => if first = byte then some word else none
    | [] => none

/-- The bytes for the tree of words that share their beginnings, up to words of `n` bytes. All words
end in one state, which is not counted here. -/
def sharedBytes : Nat → List (List UInt8) → Nat
  | 0, _ => 0
  | n + 1, words =>
    match (words.filterMap List.head?).eraseDups with
    | [] => 0
    | bytes =>
      let ending := if words.contains [] then 1 else 0
      let reading := if bytes.length = 1 then stateBytes else branchBytes bytes.length
      forkBytes (1 + ending) + reading +
        total (bytes.map fun byte => sharedBytes n (followers byte words))

/-- One of several texts. -/
def Size.ofTexts (texts : List Text) : Size :=
  let words := texts.map Text.utf8
  let longest := words.foldl (fun n word => max n word.length) 0
  ⟨sharedBytes longest words + stateBytes,
    sharedBytes longest (words.map List.reverse) + stateBytes⟩

end WikiAxioms.Pattern
