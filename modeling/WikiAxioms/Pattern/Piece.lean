import WikiAxioms.Pattern.Content

/-!
# Pieces of an automaton

What the parts of a pattern become before they are put together. Texts and single characters are
kept as such as long as possible: in a row texts grow into longer ones, and as alternatives they
share states.
-/

namespace WikiAxioms.Pattern

inductive Piece where
  | nothing
  | text (t : Text)
  | character (content : Content)
  /-- All else: its size, whether it matches the empty text alone, and whether it never does. -/
  | other (size : Size) (onlyEmpty consumes : Bool)

namespace Piece

/-- One of some characters; a single one is a text. -/
def ofContent (content : Content) : Piece :=
  match content with
  | ⟨[(first, last)], 0, _⟩ => if first = last then text [Char.ofNat first] else character content
  | _ => character content

/-- An edge of the text, of a line or of a word. -/
def edge : Piece := other (.both stateBytes) true false

def size : Piece → Size
  | nothing => .both stateBytes
  | text t => .ofText t
  | character content => content.size
  | other size _ _ => size

/-- Whether it matches nothing but the empty text, so that repeating it adds nothing. -/
def onlyEmpty : Piece → Bool
  | nothing => true
  | text _ => false
  | character _ => false
  | other _ onlyEmpty _ => onlyEmpty

/-- Whether it matches, and never the empty text. -/
def consumes : Piece → Bool
  | nothing => false
  | text _ => true
  | character content => !(content.ranges.isEmpty && content.named == 0)
  | other _ _ consumes => consumes

def text? : Piece → Option Text
  | text t => some t
  | _ => none

/-- The characters that it admits, if it reads exactly one. -/
def content? : Piece → Option Content
  | text [c] => some (.ofChar c)
  | character content => some content
  | _ => none

def isNothing : Piece → Bool
  | nothing => true
  | _ => false

/-- Pieces in a row. -/
def inSequence (pieces : List Piece) : Piece :=
  match pieces.filter (!·.isNothing) with
  | [] => nothing
  | [p] => p
  | pieces =>
    match pieces.mapM text? with
    | some texts => text texts.flatten
    | none => other (.sum (pieces.map size)) (pieces.all onlyEmpty) (pieces.any consumes)

/-- Pieces to choose from. -/
def alternatives (pieces : List Piece) : Piece :=
  match pieces.mapM content?, pieces.mapM text? with
  | some contents, _ => ofContent (contents.foldl .union .nothing)
  | none, some texts => other (.ofTexts texts) false true
  | none, none =>
    let ends := Size.both (forkBytes pieces.length + stateBytes)
    other (ends.plus (.sum (pieces.map size))) (pieces.all onlyEmpty) (pieces.all consumes)

/-- A piece in a group with a number, whose ends the forward automaton takes down. -/
def numbered (p : Piece) : Piece := other (p.size.plus ⟨2 * stateBytes, 0⟩) p.onlyEmpty p.consumes

/-- The size of `n` copies in a row, of which there is at least a state that reads nothing. -/
def copies (n : Nat) (size : Size) : Size := if n = 0 then .both stateBytes else size.times n

/-- The size of a repetition. What is optional stands behind a fork with two ways. -/
def repetitionSize (min : Nat) (max : Option Nat) (p : Piece) : Size :=
  let fork := Size.both (forkBytes 2)
  let state := Size.both stateBytes
  match min, max with
  | 0, some 1 => .sum [fork, p.size, state]
  | 0, none => if p.consumes then fork.plus p.size else .sum [p.size, fork, fork, state]
  | n, none => (p.size.times n).plus fork
  | n, some m =>
    if m ≤ n then copies n p.size
    else .sum [copies n p.size, state, (fork.plus p.size).times (m - n)]

/-- A piece that is repeated. What is repeated without a bound and matches nothing but the empty
text is matched once at most. -/
def repeated (min : Nat) (max : Option Nat) (p : Piece) : Piece :=
  let least := if p.onlyEmpty then Nat.min min 1 else min
  let most := if p.onlyEmpty then some ((max.map (Nat.min · 1)).getD 1) else max
  if most = some 0 then nothing
  else if least = 1 ∧ most = some 1 then p
  else other (repetitionSize least most p) p.onlyEmpty (0 < least && p.consumes)

end Piece

end WikiAxioms.Pattern
