import WikiAxioms.Pattern.Piece
import WikiAxioms.Pattern.Reader

/-!
# What a pattern asks of an automaton

The last two grounds for a refusal. Where the flag for Unicode is off, a pattern must match ASCII
only, since the rest of a text would be matched byte by byte; and neither of the two automata of a
pattern may grow beyond a limit. Repetitions are written out, which is what makes them grow.

The flags are a state that is handed from part to part in the order of writing. A group gives them
back as they were.
-/

namespace WikiAxioms.Pattern

/-- The flags that matter for what a part of a pattern admits. -/
structure Mode where
  unicode : Bool
  caseInsensitive : Bool
  dotMatchesNewLine : Bool
  carriageReturn : Bool

/-- The flags at the start of a pattern. -/
def Mode.initial : Mode := ⟨true, false, false, false⟩

def Mode.change (mode : Mode) (flags : Flags) : Mode :=
  ⟨flags.state .unicode mode.unicode, flags.state .caseInsensitive mode.caseInsensitive,
    flags.state .dotMatchesNewLine mode.dotMatchesNewLine,
    flags.state .carriageReturn mode.carriageReturn⟩

/-- Adds the variants in case where case counts for nothing. -/
def Mode.fold (mode : Mode) (content : Content) : Content :=
  if ¬mode.caseInsensitive then content
  else if mode.unicode then { content with ranges := content.ranges.addCaseVariants }
  else { content with ranges := content.ranges.addAsciiVariants }

/-- What a dot admits: all but the end of a line, if not all. -/
def Mode.dot (mode : Mode) : Content :=
  if mode.dotMatchesNewLine then .all
  else if mode.carriageReturn then (Content.ofRanges [(0x0A, 0x0A), (0x0D, 0x0D)]).complement
  else (Content.ofChar '\n').complement

/-- A step that sees the flags and can change them or refuse. -/
abbrev Measure (α : Type) := StateT Mode (Except Fault) α

/-- Refuses where only ASCII counts. -/
def requireUnicode (fault : Fault) : Measure Unit := do
  if ¬(← get).unicode then throw fault

/-- A character that was written as a byte beyond ASCII is no character where only ASCII counts. -/
def Letter.check (l : Letter) : Measure Unit := do
  if l.asByte ∧ 0x80 ≤ l.char.toNat then requireUnicode .nonText

/-- A member of a class must be ASCII where only ASCII counts. -/
def Letter.checkMember (l : Letter) : Measure Unit := do
  l.check
  if 0x80 ≤ l.char.toNat then requireUnicode .unicodeOff

/-- The characters of a class that a letter names. -/
def Shorthand.measure (s : Shorthand) (negated : Bool) : Measure Content := do
  if negated then requireUnicode .nonText
  let content := s.content (← get).unicode
  return if negated then content.complement else content

def Property.measure (p : Property) (negated : Bool) : Measure Content := do
  requireUnicode .unicodeOff
  match p.check with
  | .ok () => return if negated then p.content.complement else p.content
  | .error fault => throw fault

def Atom.measure : Atom → Measure Piece
  | letter l => do
    l.check
    return .ofContent ((← get).fold (.ofChar l.char))
  | dot => do
    requireUnicode .nonText
    return .ofContent (← get).dot
  | edge => return .edge
  | shorthand s negated => return .ofContent (← s.measure negated)
  | property p negated => return .ofContent (← p.measure negated)

/-- The characters of a class in brackets with some contents. -/
def closeContent (negated : Bool) (content : Content) : Measure Content := do
  let content := (← get).fold content
  if negated then
    requireUnicode .nonText
    return content.complement
  else return content

mutual

def Members.measure : Members → Measure Content
  | nothing => return .nothing
  | letter l => do
    l.checkMember
    return .ofChar l.char
  | range first last => do
    first.checkMember
    last.checkMember
    return .ofRanges [(first.char.toNat, last.char.toNat)]
  | shorthand s negated => s.measure negated
  | property p negated => p.measure negated
  | ascii content negated => do
    if negated then
      requireUnicode .nonText
      return (Content.ofRanges content).complement
    else return .ofRanges content
  | bracketed negated content => do closeContent negated (← content.measure)
  | union items => Members.measureAll items
  | combined operator left right => do
    let left ← left.measure
    let right ← right.measure
    let mode ← get
    return .combine operator (mode.fold left) (mode.fold right)

def Members.measureAll : List Members → Measure Content
  | [] => return .nothing
  | m :: ms => do return .union (← m.measure) (← Members.measureAll ms)

end

mutual

def Tree.measure : Tree → Measure Piece
  | nothing => return .nothing
  | change flags => do
    modify (·.change flags)
    return .nothing
  | atom a => a.measure
  | bracketed negated content => do
    return .ofContent (← closeContent negated (← content.measure))
  | repeated min max body => do return (← body.measure).repeated min max
  | group flags numbered body => do
    let before ← get
    set (before.change flags)
    let piece ← body.measure
    set before
    return if numbered then piece.numbered else piece
  | choice branches => do return .alternatives (← Tree.measureAll branches)
  | sequence parts => do return .inSequence (← Tree.measureAll parts)

def Tree.measureAll : List Tree → Measure (List Piece)
  | [] => return []
  | t :: ts => do return (← t.measure) :: (← Tree.measureAll ts)

end

/-- How deep a pattern may nest. -/
def nestLimit : Nat := 250

/-- How many bytes an automaton may take. -/
def sizeLimit : Nat := 10 * 1024 * 1024

/-- What the automata hold besides the pattern: a loop over any bytes in front of it and the state
that ends it, and forward the two states that take down the ends of a match. -/
def frameSize : Size :=
  let loop := forkBytes 2 + branchBytes 1 + stateBytes
  ⟨loop + 3 * stateBytes, loop + stateBytes⟩

/-- Accepts a pattern, or says why not: for its form first, then for its depth, its meaning and its
size. -/
def verdict (t : Text) : Except Fault Unit := do
  let tree ← Tree.ofText t
  if ¬tree.fits nestLimit then throw (.nesting nestLimit)
  let (piece, _) ← tree.measure.run .initial
  let size := piece.size.plus frameSize
  if sizeLimit < max size.forward size.backward then throw (.size sizeLimit)

/-- Accepts a pattern, or says in words why not. -/
def check (t : Text) : Except Text Unit := (verdict t).mapError Fault.message

end WikiAxioms.Pattern
