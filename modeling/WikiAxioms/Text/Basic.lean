/-!
# Texts

A text is a list of characters, so that every statement about texts is a statement about lists.
Lengths and offsets that leave the program count bytes of UTF-8, which `byteLength` measures.
-/

namespace WikiAxioms

abbrev Text := List Char

instance : Coe String Text := ⟨String.toList⟩

/-- Membership in the Unicode property `White_Space`. -/
def isSpace (c : Char) : Bool :=
  let n := c.toNat
  (9 ≤ n && n ≤ 13) || n == 0x20 || n == 0x85 || n == 0xA0 || n == 0x1680 ||
    (0x2000 ≤ n && n ≤ 0x200A) || n == 0x2028 || n == 0x2029 || n == 0x202F || n == 0x205F ||
    n == 0x3000

/-- The sum of some lengths. -/
def total (ns : List Nat) : Nat := ns.foldr Nat.add 0

@[simp] theorem total_nil : total [] = 0 := rfl

@[simp] theorem total_cons (n : Nat) (ns : List Nat) : total (n :: ns) = n + total ns := rfl

@[simp] theorem total_append (ms ns : List Nat) : total (ms ++ ns) = total ms + total ns := by
  induction ms with
  | nil => simp
  | cons m ms ih => simp [ih, Nat.add_assoc]

namespace Text

/-- The number of bytes of the UTF-8 form. -/
def byteLength (t : Text) : Nat := total (t.map Char.utf8Size)

def utf8 (t : Text) : List UInt8 := t.flatMap String.utf8EncodeChar

def trimStart (t : Text) : Text := t.dropWhile isSpace

def trimEnd (t : Text) : Text := (t.reverse.dropWhile isSpace).reverse

/-- The text without white space at either end. -/
def trim (t : Text) : Text := trimEnd (trimStart t)

def isBlank (t : Text) : Bool := t.all isSpace

/-- What follows `lead` in a text that starts with it. -/
def after? : (t lead : Text) → Option Text
  | t, [] => some t
  | [], _ :: _ => none
  | c :: t, a :: lead => if a = c then after? t lead else none

/-- What precedes `tail` in a text that ends with it. -/
def before? (t tail : Text) : Option Text := (after? t.reverse tail.reverse).map List.reverse

/-- The text before and after the first place where `marker` stands. -/
def cutAt : (t marker : Text) → Option (Text × Text)
  | [], marker => if marker = [] then some ([], []) else none
  | c :: t, marker =>
    match after? (c :: t) marker with
    | some rest => some ([], rest)
    | none => (cutAt t marker).map fun parts => (c :: parts.1, parts.2)

def contains (t marker : Text) : Bool := (t.cutAt marker).isSome

/-- Continues `runs` with the run `current` under way. -/
def runsFrom (isSeparator : Char → Bool) (current : Text) : Text → List Text
  | [] => if current = [] then [] else [current]
  | c :: t =>
    if isSeparator c then
      if current = [] then runsFrom isSeparator [] t
      else current :: runsFrom isSeparator [] t
    else runsFrom isSeparator (current ++ [c]) t

/-- The maximal non-empty runs of characters that are no separators, in order. -/
def runs (isSeparator : Char → Bool) (t : Text) : List Text := runsFrom isSeparator [] t

def join (separator : Text) (parts : List Text) : Text := separator.intercalate parts

/-- The pieces between line feeds; a text without one is a single piece. -/
def lines : Text → List Text
  | [] => [[]]
  | c :: t =>
    if c = '\n' then [] :: lines t
    else match lines t with
      | [] => [[c]]
      | l :: ls => (c :: l) :: ls

/-- Equality up to the case of ASCII letters. -/
def sameLetters (a b : Text) : Bool := a.map Char.toLower == b.map Char.toLower

/-- Decimal digits of a number. -/
def ofNat (n : Nat) : Text := Nat.toDigits 10 n

/-- `t` filled up with blanks on the right to `width` characters. -/
def padRight (width : Nat) (t : Text) : Text := t ++ List.replicate (width - t.length) ' '

/-- `t` filled up with blanks on the left to `width` characters. -/
def padLeft (width : Nat) (t : Text) : Text := List.replicate (width - t.length) ' ' ++ t

/-- What remains after the first `n` bytes, if they end between two characters. -/
def dropBytes? : Nat → Text → Option Text
  | 0, t => some t
  | _ + 1, [] => none
  | n + 1, c :: t => if c.utf8Size ≤ n + 1 then dropBytes? (n + 1 - c.utf8Size) t else none

/-- The first `n` bytes, if they end between two characters. -/
def takeBytes? : Nat → Text → Option Text
  | 0, _ => some []
  | _ + 1, [] => none
  | n + 1, c :: t =>
    if c.utf8Size ≤ n + 1 then (takeBytes? (n + 1 - c.utf8Size) t).map (c :: ·) else none

/-- The part of a text in a range of byte offsets, if both ends lie between characters. -/
def slice? (t : Text) (first last : Nat) : Option Text :=
  if first ≤ last then (dropBytes? first t).bind (takeBytes? (last - first)) else none

theorem dropWhile_length_le {α : Type} (p : α → Bool) (l : List α) :
    (l.dropWhile p).length ≤ l.length := by
  induction l with
  | nil => exact Nat.le_refl _
  | cons a l ih =>
    rw [List.dropWhile_cons]
    split
    · exact Nat.le_succ_of_le ih
    · exact Nat.le_refl _

/-- What follows a lead, with the lead put back, is the text. -/
theorem eq_of_after? {t lead rest : Text} (h : t.after? lead = some rest) : t = lead ++ rest := by
  induction lead generalizing t with
  | nil => simpa [after?] using h
  | cons a lead ih =>
    cases t with
    | nil => simp [after?] at h
    | cons c t =>
      by_cases hc : a = c
      · subst hc; simp [after?] at h; simp [ih h]
      · simp [after?, hc] at h

/-- A cut loses nothing. -/
theorem eq_of_cutAt {t marker front rest : Text} (h : t.cutAt marker = some (front, rest)) :
    t = front ++ marker ++ rest := by
  induction t generalizing front with
  | nil =>
    by_cases hm : marker = []
    · simp [cutAt, hm] at h; simp [h, hm]
    · simp [cutAt, hm] at h
  | cons c t ih =>
    rw [cutAt] at h
    split at h
    · rename_i r hr
      simp only [Option.some.injEq, Prod.mk.injEq] at h
      rw [eq_of_after? hr, ← h.1, h.2, List.nil_append]
    · rw [Option.map_eq_some_iff] at h
      obtain ⟨⟨f, r⟩, hp, he⟩ := h
      simp only [Prod.mk.injEq] at he
      obtain ⟨rfl, rfl⟩ := he
      simp [ih hp]

end Text

end WikiAxioms
