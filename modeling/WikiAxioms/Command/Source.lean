import WikiAxioms.Command.Options
import WikiAxioms.Markup.Page

/-!
# Entries of a source

A source is a table with one declaration a line, or a page. Each declaration in it is an entry; of
a table, lines that are neither entries nor meant to be skipped are counted.
-/

namespace WikiAxioms.Command

open WikiAxioms.Markup

structure SourceEntry where
  property : PropertyId
  declaration : Text
  /-- Where it stands in the source, in words. -/
  origin : Text

/-- What a line of a table is. -/
inductive Line where
  /-- Blank, or a comment. -/
  | skipped
  | entry (property : PropertyId) (declaration : Text)
  | malformed

/-- Takes a line without white space at its ends: a property up to the first tab, a declaration
after it. -/
def Line.ofTrimmed (t : Text) : Line :=
  match t with
  | [] => skipped
  | '#' :: _ => skipped
  | t =>
    match t.cutAt ['\t'] with
    | none => malformed
    | some (property, declaration) =>
      match EntityId.ofText .property property with
      | .ok id => entry id declaration
      | .error _ => malformed

def Line.ofText (t : Text) : Line := ofTrimmed t.trim

/-- The entry of a line with a number, if it is one. -/
def Line.entry? (number : Nat) : Line → Option SourceEntry
  | entry property declaration => some ⟨property, declaration, "line " ++ Text.ofNat number⟩
  | _ => none

def Line.isMalformed : Line → Bool
  | malformed => true
  | _ => false

def tableLines (t : Text) : List Line := t.lines.map Line.ofText

/-- The entries among lines, the first of which has the given number. -/
def entriesFrom (number : Nat) : List Line → List SourceEntry
  | [] => []
  | line :: lines => (line.entry? number).toList ++ entriesFrom (number + 1) lines

def tableEntries (t : Text) : List SourceEntry := entriesFrom 1 (tableLines t)

/-- How many lines of a table are no entries although they are not meant to be skipped. -/
def malformedLines (t : Text) : Nat := (tableLines t).countP Line.isMalformed

/-- The declarations on a page, for one property. -/
def pageEntries (property : PropertyId) (t : Text) : List SourceEntry :=
  (declarations t).map fun d => ⟨property, d.text, "offset " ++ Text.ofNat d.offset⟩

end WikiAxioms.Command
