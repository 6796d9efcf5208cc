import WikiAxioms.Markup.SyntaxFault
import WikiAxioms.Text.Width

/-!
# Drawn reports of syntax faults

A report shows the lines of a source that a fault concerns, with the faulty part coloured and
pointed at. Offsets of the fault count bytes; what is drawn counts characters, and a character may
take several columns.
-/

namespace WikiAxioms.Markup.Report

/-- A text between the terminal codes that start and end a style. -/
def paint (style t : Text) : Text := ['\x1b', '['] ++ style ++ ['m'] ++ t ++ "\x1b[0m"

def red (t : Text) : Text := paint "31" t

/-- The style of the frame. -/
def framed (t : Text) : Text := paint "38;5;246" t

/-- The style of the frame beside rows that are no lines of the source. -/
def faint (t : Text) : Text := paint "38;5;240" t

/-- The style of characters without a fault. -/
def plain (t : Text) : Text := paint "38;5;249" t

def spaces (n : Nat) : Text := List.replicate n ' '

/-- Characters that end a line. -/
def isLineEnd (c : Char) : Bool :=
  c == '\r' || c == '\n' || c == '\x0b' || c == '\x0c' || c == '\u0085' || c == '\u2028' ||
    c == '\u2029'

/-- The lines of a source with what ends them; a carriage return and a line feed end one line. -/
def splitLines : Text → List Text
  | [] => []
  | c :: t =>
    match splitLines t with
    | [] => [[c]]
    | l :: ls =>
      if isLineEnd c && !(c == '\r' && l == ['\n']) then [c] :: l :: ls else (c :: l) :: ls

/-- A line of the source. -/
structure SourceLine where
  /-- Lines are numbered from one. -/
  number : Nat
  /-- The byte at which it starts. -/
  start : Nat
  text : Text

def numberLines (number start : Nat) : List Text → List SourceLine
  | [] => []
  | t :: ts => ⟨number, start, t⟩ :: numberLines (number + 1) (start + t.byteLength) ts

/-- The number of characters in the first `n` bytes. -/
def charsInBytes : Nat → Text → Nat
  | _, [] => 0
  | n, c :: t => if c.utf8Size ≤ n then charsInBytes (n - c.utf8Size) t + 1 else 0

/-- A place in a source: a line and the number of characters before it there. -/
structure Place where
  line : SourceLine
  column : Nat

/-- The place of a byte offset: the last line that starts at it or before. -/
def placeOf? (lines : List SourceLine) (size offset : Nat) : Option Place :=
  if offset ≤ size then
    (lines.filter (·.start ≤ offset)).getLast?.map fun l =>
      ⟨l, charsInBytes (offset - l.start) l.text⟩
  else none

/-- What is shown: the places of both ends, the last one excluded. -/
structure Region where
  first : Place
  last : Place

/-- The region of a span; none if the span leaves the source. -/
def regionOf? (source : Text) (span : Span) : Option Region := do
  let lines := numberLines 1 0 (splitLines source)
  let size := source.byteLength
  let first ← placeOf? lines size span.first
  if span.last ≤ span.first then return ⟨first, first⟩
  let last ← placeOf? lines size (span.last - 1)
  return ⟨first, ⟨last.line, charsInBytes (span.last - last.line.start) last.line.text⟩⟩

/-- How a character at a column is shown, and how many columns it takes. Tabs reach to the next
multiple of four, and other white space is a blank. -/
def shown (column : Nat) (c : Char) : Char × Nat :=
  if c = '\t' then (' ', 4 - column % 4)
  else if isSpace c then (' ', 1)
  else (c, displayWidth c)

/-- A line without the white space at its end, each character with its column. -/
def columnsOf (l : SourceLine) : List (Char × Nat) := (Text.trimEnd l.text).zipIdx

/-- The characters of a line; those of the columns from `first` up to `last` are faulty. -/
def drawLine (l : SourceLine) (first last : Nat) : Text :=
  (columnsOf l).flatMap fun (c, column) =>
    let (d, width) := shown column c
    let style := if first ≤ column && column < last then red else plain
    if isSpace d then (List.replicate width (style [d])).flatten else style [d]

/-- The widths of the first `n` columns of a line; columns after its end have width one. -/
def widthsOf (l : SourceLine) (n : Nat) : List (Nat × Nat) :=
  let widths := (columnsOf l).map fun (c, column) => (shown column c).2
  (List.range n).map fun column => (column, widths.getD column 1)

/-- `head` in the first of `width` columns and `tail` in the others. -/
def fill (head tail : Text) (width : Nat) : Text :=
  if width = 0 then [] else head ++ (List.replicate (width - 1) tail).flatten

/-- The frame beside a line with its number. -/
def numberedMargin (w : Nat) (l : SourceLine) : Text :=
  [' '] ++ framed ((Text.ofNat l.number).padLeft w ++ [' ', '│']) ++ [' ']

/-- The frame beside a row without a number. -/
def margin (w : Nat) (bar : Char) : Text := [' '] ++ faint (spaces (w + 1) ++ [bar]) ++ [' ']

/-- The rows under the line of a region on one line: an underline from which a stem leads to the
message. -/
def drawInline (w : Nat) (r : Region) (message : Text) : Text :=
  let first := r.first.column
  let last := r.last.column
  let stem := (first + last) / 2
  let columns := widthsOf r.first.line (last + 2)
  let underline := columns.flatMap fun (column, width) =>
    if column = stem then
      if first < last then fill (red ['┬']) (red ['─']) width
      else fill (red ['│']) (red [' ']) width
    else if first ≤ column && column < last then fill (red ['─']) (red ['─']) width
    else spaces width
  let lead := columns.flatMap fun (column, width) =>
    if column = stem then fill (red ['╰']) (red ['─']) width
    else if stem < column then fill (red ['─']) (red ['─']) width
    else spaces width
  numberedMargin w r.first.line ++ drawLine r.first.line first last ++ ['\n'] ++
    margin w '│' ++ underline ++ ['\n'] ++
    margin w '│' ++ lead ++ [' '] ++ message ++ ['\n']

/-- An arrow that points at a line from the left. -/
def arrow (corner : Char) : Text := red [corner] ++ red ['─'] ++ red ['▶'] ++ red [' ']

/-- The rows of a region on several lines: its first and last line, joined on the left, where a
stem leads to the message. -/
def drawMultiline (w : Nat) (r : Region) (message : Text) : Text :=
  let first := r.first.line
  let last := r.last.line
  let gap := if first.number + 1 < last.number then
      margin w '┆' ++ red ['┆'] ++ spaces 3 ++ ['\n']
    else []
  let columns := (widthsOf last (last.text.length + 2)).map Prod.snd
  numberedMargin w first ++ arrow '╭' ++ drawLine first r.first.column first.text.length ++
    ['\n'] ++ gap ++
    numberedMargin w last ++ arrow '├' ++ drawLine last 0 r.last.column ++ ['\n'] ++
    margin w '│' ++ red ['│'] ++ spaces 3 ++ spaces (total columns) ++ ['\n'] ++
    margin w '│' ++ red ['╰'] ++ (List.replicate (3 + total columns) (red ['─'])).flatten ++
      [' '] ++ message ++ ['\n']

end Report

open Report

/-- What is written beside the faulty part. -/
def SyntaxFault.label (f : SyntaxFault) : Text :=
  if f.expected = [] then f.detail
  else f.detail ++ "\nExpected: " ++ Text.join [',', ' '] f.expected

/-- The report of a fault in a source that is known as `origin`. -/
def SyntaxFault.report (f : SyntaxFault) (source origin : Text) : Text :=
  red "Error:" ++ [' '] ++ f.detail ++ ['\n'] ++
    match regionOf? source f.span with
    | none => []
    | some r =>
      let w := (Text.ofNat r.last.line.number).length
      let place := origin ++ [':'] ++ Text.ofNat r.first.line.number ++ [':'] ++
        Text.ofNat (r.first.column + 1)
      let body := if r.first.line.number = r.last.line.number then drawInline w r f.label
        else drawMultiline w r f.label
      spaces (w + 2) ++ framed ['╭'] ++ framed ['─'] ++ framed ['['] ++ place ++ framed [']'] ++
        ['\n'] ++
        spaces (w + 2) ++ framed ['│'] ++ ['\n'] ++
        body ++
        framed (List.replicate (w + 2) '─' ++ ['╯']) ++ ['\n']

end WikiAxioms.Markup
