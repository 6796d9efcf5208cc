import WikiAxioms.Markup.Page

/-!
# Scanners

A scanner goes over a page in place: the page is bytes, and all that is remembered is the byte at
which the scan goes on. Braces are told by their bytes, the depth is a number without a sign, and
templates are cut out at byte offsets. So a scanner can break down where `declarations` cannot:
when the depth would fall below zero, when an offset lies within a character, or when a turn leaves
the position where it was, so that turns would follow each other for ever. It has no result then.
-/

namespace WikiAxioms.Markup

abbrev openingByte : UInt8 := 0x7b

abbrev closingByte : UInt8 := 0x7d

/-- The byte behind the template in which the given bytes stand, the first of them at `i`, with
`depth` pairs of braces open; the end of the bytes if it is not closed. -/
def templateEnd? (depth i : Nat) : List UInt8 → Option Nat
  | [] => some i
  | a :: bytes =>
    match bytes with
    | [] => some (i + 1)
    | b :: rest =>
      if a = openingByte ∧ b = openingByte then templateEnd? (depth + 1) (i + 2) rest
      else if a = closingByte ∧ b = closingByte then
        if depth = 0 then none
        else if depth = 1 then some (i + 2)
        else templateEnd? (depth - 1) (i + 2) rest
      else templateEnd? depth (i + 1) (b :: rest)

/-- A scan under way: it goes on at the byte `position`. -/
structure Scanner where
  page : Text
  position : Nat

namespace Scanner

def ofPage (page : Text) : Scanner := ⟨page, 0⟩

/-- The next template, whatever its name, and the byte behind it, unless no braces open one. -/
def template? (s : Scanner) : Option (Option (Excerpt × Nat)) := do
  let unread ← s.page.dropBytes? s.position
  match unread.cutAt ['\x7b', '\x7b'] with
  | none => return none
  | some (prose, _) =>
    let first := s.position + prose.byteLength
    let last ← templateEnd? 0 first (s.page.utf8.drop first)
    let text ← s.page.slice? first last
    return some (⟨first, text⟩, last)

/-- The next declaration, unless there is none any more, and the scanner as it is then. -/
def next? (s : Scanner) : Option (Option Excerpt × Scanner) :=
  if s.position < s.page.byteLength then
    match s.template? with
    | none => none
    | some none => some (none, s)
    | some (some (e, last)) =>
      if declaresConstraint e.text then some (some e, { s with position := last })
      else if s.position < last then next? { s with position := last }
      else none
  else some (none, s)
termination_by s.page.byteLength - s.position

end Scanner

end WikiAxioms.Markup
