import WikiAxioms.Pattern.Bracket
import WikiAxioms.Pattern.Group

/-!
# Reading patterns

`Tree.ofText` reads the tree of a pattern. What is open is kept on a stack, so that the depth of
nesting is no concern of the reader; each step consumes a character.
-/

namespace WikiAxioms.Pattern

/-- What has been read of a group or of the whole pattern, the last branch and part first. -/
structure Level where
  branches : List Tree
  parts : List Tree

/-- A group that is not closed yet. -/
structure OpenGroup where
  /-- What stood in front of it. -/
  outer : Level
  flags : Flags
  numbered : Bool
  /-- Whether blanks are skipped outside it. -/
  spaced : Bool

structure ReaderState where
  stack : List OpenGroup
  level : Level
  spaced : Bool
  /-- The names of groups so far. -/
  names : List Text
  rest : Text

/-- What has been read, as one tree. -/
def Level.tree (l : Level) : Tree := .ofBranches (l.branches.reverse ++ [.ofParts l.parts.reverse])

def Level.add (l : Level) (t : Tree) : Level := ⟨l.branches, t :: l.parts⟩

/-- Goes on to another branch. -/
def Level.nextBranch (l : Level) : Level := ⟨.ofParts l.parts.reverse :: l.branches, []⟩

/-- Takes back the part that a sign of repetition refers to. -/
def Level.takeLast (l : Level) : Except Fault (Tree × Level) :=
  match l.parts with
  | [] => .error .repetitionMissing
  | .nothing :: _ => .error .repetitionMissing
  | .change _ :: _ => .error .repetitionMissing
  | t :: parts => .ok (t, ⟨l.branches, parts⟩)

/-- Drops the sign that makes a repetition as short as possible. -/
def dropLazy : Text → Text
  | '?' :: t => t
  | t => t

/-- Reads what follows the opening brace of a count: the bounds, and the text after the count. -/
def readBounds (spaced : Bool) (t : Text) : Except Fault (Nat × Option Nat × Text) := do
  match skip spaced t with
  | [] => throw .countUnclosed
  | t =>
    let (min, rest) := readCount spaced t
    let (min, max, rest) ← match rest with
      | [] => throw .countUnclosed
      | ',' :: rest =>
        match skip spaced rest with
        | [] => throw .countUnclosed
        | '\x7d' :: rest => pure (← min, none, '\x7d' :: rest)
        | rest => do
          let min ← min
          let (max, rest) := readCount spaced rest
          pure (min, some (← max), rest)
      | rest => do
        let min ← min
        pure (min, some min, rest)
    match rest with
    | '\x7d' :: rest =>
      match max with
      | some m => if m < min then throw .countReversed
      | none => pure ()
      return (min, max, dropLazy (skip spaced rest))
    | _ => throw .countUnclosed

/-- Takes an opening parenthesis. -/
def openGroup (s : ReaderState) (t : Text) : Except Fault ReaderState := do
  let (opening, rest) ← readOpening s.names (skip s.spaced t)
  let inside (flags : Flags) (numbered : Bool) (names : List Text) : ReaderState :=
    ⟨⟨s.level, flags, numbered, s.spaced⟩ :: s.stack, ⟨[], []⟩,
      flags.state .ignoreBlanks s.spaced, names, rest⟩
  return match opening with
    | .plain => inside [] true s.names
    | .named name => inside [] true (name :: s.names)
    | .under flags => inside flags false s.names
    | .change flags =>
      { s with level := s.level.add (.change flags), rest,
               spaced := flags.state .ignoreBlanks s.spaced }

/-- Takes a closing parenthesis. -/
def closeGroup (s : ReaderState) (t : Text) : Except Fault ReaderState :=
  match s.stack with
  | [] => .error .groupUnopened
  | g :: stack =>
    .ok { s with stack, level := g.outer.add (.group g.flags g.numbered s.level.tree),
                 spaced := g.spaced, rest := t }

/-- Takes a sign of repetition whose bounds are known. -/
def addRepetition (s : ReaderState) (min : Nat) (max : Option Nat) (rest : Text) :
    Except Fault ReaderState := do
  let (body, level) ← s.level.takeLast
  return { s with level := level.add (.repeated min max body), rest }

/-- Takes an opening brace. That there is something to repeat matters before what the count says. -/
def addCounted (s : ReaderState) (t : Text) : Except Fault ReaderState := do
  let _ ← s.level.takeLast
  let (min, max, rest) ← readBounds s.spaced t
  addRepetition s min max rest

def addAtom (s : ReaderState) (a : Atom) (rest : Text) : ReaderState :=
  { s with level := s.level.add (.atom a), rest }

/-- Takes the character `c`, which is followed by `t`. -/
def readSign (s : ReaderState) (c : Char) (t : Text) : Except Fault ReaderState :=
  match c with
  | '(' => openGroup s t
  | ')' => closeGroup s t
  | '|' => .ok { s with level := s.level.nextBranch, rest := t }
  | '[' => do
    let (negated, content, rest) ← readBracketed s.spaced t
    return { s with level := s.level.add (.bracketed negated content), rest }
  | '?' => addRepetition s 0 (some 1) (dropLazy t)
  | '*' => addRepetition s 0 none (dropLazy t)
  | '+' => addRepetition s 1 none (dropLazy t)
  | '\x7b' => addCounted s t
  | '\\' => do
    let (atom, rest) ← readEscape s.spaced t
    return addAtom s atom rest
  | '.' => .ok (addAtom s .dot t)
  | '^' => .ok (addAtom s .edge t)
  | '$' => .ok (addAtom s .edge t)
  | c => .ok (addAtom s (.letter ⟨c, false⟩) t)

/-- One step of the reader: a sign, or the end of the pattern. -/
def readerStep (s : ReaderState) : Except Fault (ReaderState ⊕ Tree) :=
  match skip s.spaced s.rest with
  | [] => if s.stack.isEmpty then .ok (.inr s.level.tree) else .error .groupUnclosed
  | c :: t => (readSign s c t).map .inl

/-- The tree of a pattern, or the first fault of its form. -/
def Tree.ofText (t : Text) : Except Fault Tree :=
  iterate readerStep .groupUnclosed (t.length + 1) ⟨[], ⟨[], []⟩, false, [], t⟩

end WikiAxioms.Pattern
