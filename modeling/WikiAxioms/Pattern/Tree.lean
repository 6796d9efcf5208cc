import WikiAxioms.Text.Basic
import WikiAxioms.Text.Ranges

/-!
# Trees of patterns

What a pattern is made of, as far as it matters for whether the pattern is accepted. `fits` bounds
how deep a tree nests.
-/

namespace WikiAxioms.Pattern

/-- One literal character. -/
structure Letter where
  char : Char
  /-- Whether it was written as two hexadecimal digits, which name a byte where only ASCII
  counts. -/
  asByte : Bool
  deriving DecidableEq

/-- A test of a character by its Unicode properties. -/
inductive Property where
  | named (name : Text)
  | valued (name value : Text)
  deriving DecidableEq

/-- The classes that a single letter names. -/
inductive Shorthand where
  | digit
  | space
  | word
  deriving DecidableEq

/-- What an escape sequence or a plain character stands for. -/
inductive Atom where
  | letter (l : Letter)
  | dot
  /-- An edge of the text, of a line or of a word. -/
  | edge
  | shorthand (s : Shorthand) (negated : Bool)
  | property (p : Property) (negated : Bool)
  deriving DecidableEq

/-- The operators between two classes. -/
inductive SetOperator where
  | intersection
  | difference
  | symmetricDifference
  deriving DecidableEq

/-- The contents of a bracketed class. -/
inductive Members where
  | nothing
  | letter (l : Letter)
  | range (first last : Letter)
  | shorthand (s : Shorthand) (negated : Bool)
  | property (p : Property) (negated : Bool)
  /-- A class of ASCII characters that goes by a name. -/
  | ascii (content : CodePointRanges) (negated : Bool)
  | bracketed (negated : Bool) (content : Members)
  | union (items : List Members)
  /-- What remains of two classes under an operator between them. -/
  | combined (operator : SetOperator) (left right : Members)

inductive Flag where
  | caseInsensitive
  | multiLine
  | dotMatchesNewLine
  | swapGreed
  | unicode
  | carriageReturn
  | ignoreBlanks
  deriving DecidableEq

/-- Flags with whether each is switched on. -/
abbrev Flags := List (Flag × Bool)

/-- The state of a flag after some changes. -/
def Flags.state (changes : Flags) (flag : Flag) (before : Bool) : Bool :=
  (changes.lookup flag).getD before

inductive Tree where
  | nothing
  /-- A change of flags up to the end of the group around it. -/
  | change (flags : Flags)
  | atom (a : Atom)
  | bracketed (negated : Bool) (content : Members)
  /-- At least `min` times the body, and at most `max` times if there is a bound. -/
  | repeated (min : Nat) (max : Option Nat) (body : Tree)
  /-- A group, with flags that are changed inside it, and with or without a number. -/
  | group (flags : Flags) (numbered : Bool) (body : Tree)
  | choice (branches : List Tree)
  | sequence (parts : List Tree)

/-- Several members as one: a single one stands for itself. -/
def Members.ofList : List Members → Members
  | [] => .nothing
  | [m] => m
  | items => .union items

/-- Several parts in a row as one tree: a single one stands for itself. -/
def Tree.ofParts : List Tree → Tree
  | [] => .nothing
  | [t] => t
  | parts => .sequence parts

/-- Several branches as one tree: a single one stands for itself. -/
def Tree.ofBranches : List Tree → Tree
  | [] => .nothing
  | [t] => t
  | branches => .choice branches

mutual

/-- Whether members nest at most `n` deep. -/
def Members.fits : Nat → Members → Bool
  | 0, bracketed .. => false
  | 0, union _ => false
  | 0, combined .. => false
  | n + 1, bracketed _ content => content.fits n
  | n + 1, union items => Members.allFit n items
  | n + 1, combined _ left right => left.fits n && right.fits n
  | _, _ => true

def Members.allFit (n : Nat) : List Members → Bool
  | [] => true
  | m :: ms => m.fits n && Members.allFit n ms

end

mutual

/-- Whether a tree nests at most `n` deep. -/
def Tree.fits : Nat → Tree → Bool
  | _, nothing => true
  | _, change _ => true
  | _, atom _ => true
  | 0, _ => false
  | n + 1, bracketed _ content => content.fits n
  | n + 1, repeated _ _ body => body.fits n
  | n + 1, group _ _ body => body.fits n
  | n + 1, choice branches => Tree.allFit n branches
  | n + 1, sequence parts => Tree.allFit n parts

def Tree.allFit (n : Nat) : List Tree → Bool
  | [] => true
  | t :: ts => t.fits n && Tree.allFit n ts

end

end WikiAxioms.Pattern
