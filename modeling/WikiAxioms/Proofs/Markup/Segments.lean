import WikiAxioms.Markup.Scanner
import WikiAxioms.Proofs.Markup.Scanning
import WikiAxioms.Proofs.Text.Utf8

/-!
# Templates as stretches of bytes

What the templates of a page are can be said without an algorithm: the bytes are read once from left
to right, outside of templates one by one up to two opening braces, within templates by pairs of
braces and otherwise one by one. Reading is determined by the bytes, so they are cut in one way
only, and the templates of a page are that cut. That braces are looked for among bytes makes no
difference, since no character but a brace has the byte of a brace in it.
-/

namespace WikiAxioms.Markup

/-- The bytes that an excerpt takes up. -/
def Excerpt.span (e : Excerpt) : Span := ⟨e.offset, e.offset + e.text.byteLength⟩

/-- Two braces of one kind stand first. -/
def StartsPair (bytes : List UInt8) : Prop :=
  [openingByte, openingByte] <+: bytes ∨ [closingByte, closingByte] <+: bytes

/-- Reading on where `depth` templates are open: `body` is read in front of `rest`, and `left` of
them stay open. Pairs of braces open and close templates, all other bytes stand alone. Reading goes
on until no template is open or there are no bytes any more. -/
inductive Reads : (depth : Nat) → (body rest : List UInt8) → (left : Nat) → Prop
  | closed (rest : List UInt8) : Reads 0 [] rest 0
  | ended (depth : Nat) : Reads (depth + 1) [] [] (depth + 1)
  | opening {depth left : Nat} {body rest : List UInt8} : Reads (depth + 2) body rest left →
      Reads (depth + 1) (openingByte :: openingByte :: body) rest left
  | closing {depth left : Nat} {body rest : List UInt8} : Reads depth body rest left →
      Reads (depth + 1) (closingByte :: closingByte :: body) rest left
  | single {depth left : Nat} {b : UInt8} {body rest : List UInt8} :
      ¬ StartsPair (b :: (body ++ rest)) → Reads (depth + 1) body rest left →
      Reads (depth + 1) (b :: body) rest left

/-- The templates among the bytes from `offset` on, by where each starts and ends. -/
inductive Segments : (offset : Nat) → (bytes : List UInt8) → List Span → Prop
  | done (offset : Nat) : Segments offset [] []
  | prose {offset : Nat} {b : UInt8} {bytes : List UInt8} {spans : List Span} :
      ¬ [openingByte, openingByte] <+: b :: bytes → Segments (offset + 1) bytes spans →
      Segments offset (b :: bytes) spans
  | template {offset left : Nat} {bytes body rest : List UInt8} {spans : List Span} :
      bytes = openingByte :: openingByte :: (body ++ rest) → Reads 1 body rest left →
      Segments (offset + (body.length + 2)) rest spans →
      Segments offset bytes (⟨offset, offset + (body.length + 2)⟩ :: spans)

section Determined

variable {depth offset left left' : Nat} {bytes body body' rest rest' : List UInt8}
  {spans spans' : List Span}

/-- The bytes determine how far they are read. -/
theorem Reads.unique (h : Reads depth body rest left) (h' : Reads depth body' rest' left')
    (he : body ++ rest = body' ++ rest') : body = body' ∧ rest = rest' ∧ left = left' := by
  induction h generalizing body' with
  | closed rest =>
    cases h' with
    | closed => exact ⟨rfl, he, rfl⟩
  | ended depth =>
    cases h' with
    | ended => exact ⟨rfl, rfl, rfl⟩
    | opening | closing | single => cases he
  | opening _ ih =>
    cases h' with
    | ended => cases he
    | opening h' => simpa using ih h' (by simpa using he)
    | closing => exact absurd (List.cons.inj he).1 (by decide)
    | single hn => exact absurd (.inl ⟨_, he⟩) hn
  | closing _ ih =>
    cases h' with
    | ended => cases he
    | opening => exact absurd (List.cons.inj he).1 (by decide)
    | closing h' => simpa using ih h' (by simpa using he)
    | single hn => exact absurd (.inr ⟨_, he⟩) hn
  | single hn _ ih =>
    cases h' with
    | ended => cases he
    | opening => exact absurd (.inl ⟨_, he.symm⟩) hn
    | closing => exact absurd (.inr ⟨_, he.symm⟩) hn
    | single _ h' =>
      obtain ⟨rfl, hr⟩ := List.cons.inj he
      simpa using ih h' hr

/-- The bytes determine the templates. -/
theorem Segments.unique (h : Segments offset bytes spans) (h' : Segments offset bytes spans') :
    spans = spans' := by
  induction h generalizing spans' with
  | done =>
    cases h' with
    | done => rfl
    | template he => cases he
  | prose hn _ ih =>
    cases h' with
    | prose _ h' => exact ih h'
    | template he => exact absurd ⟨_, he.symm⟩ hn
  | template he hr _ ih =>
    cases h' with
    | done => cases he
    | prose hn => exact absurd ⟨_, he.symm⟩ hn
    | template he' hr' h' =>
      have hb := he.symm.trans he'
      obtain ⟨rfl, rfl, -⟩ := hr.unique hr' (by simpa using hb)
      rw [ih h']

/-- Templates take up bytes, and each ends before the next one starts. -/
theorem Segments.ordered (h : Segments offset bytes spans) :
    (∀ span ∈ spans, offset ≤ span.first ∧ span.first < span.last) ∧
      spans.Pairwise fun span later => span.last ≤ later.first := by
  induction h with
  | done => exact ⟨List.forall_mem_nil _, .nil⟩
  | prose _ _ ih =>
    exact ⟨fun span hs => ⟨Nat.le_of_succ_le (ih.1 span hs).1, (ih.1 span hs).2⟩, ih.2⟩
  | template _ _ _ ih =>
    refine ⟨List.forall_mem_cons.mpr ⟨by simp, fun span hs => ?_⟩, .cons ?_ ih.2⟩
    · exact ⟨Nat.le_trans (Nat.le_add_right ..) (ih.1 span hs).1, (ih.1 span hs).2⟩
    · exact fun span hs => (ih.1 span hs).1

end Determined

/-! ## Characters and bytes -/

theorem exists_of_pair_utf8 {d : Char} (hd : d.toNat ≤ 0x7f) {t : Text}
    (h : [UInt8.ofNat d.toNat, UInt8.ofNat d.toNat] <+: t.utf8) : ∃ r, t = d :: d :: r := by
  obtain ⟨bytes, hb⟩ := h
  obtain ⟨r, rfl, hr⟩ := Text.exists_cons_of_utf8_eq_cons hd hb.symm
  obtain ⟨r', rfl, -⟩ := Text.exists_cons_of_utf8_eq_cons hd hr.symm
  exact ⟨r', rfl⟩

theorem exists_of_opening_utf8 {t : Text} (h : [openingByte, openingByte] <+: t.utf8) :
    ∃ r, t = '\x7b' :: '\x7b' :: r :=
  exists_of_pair_utf8 (d := '\x7b') (by decide) h

theorem exists_of_closing_utf8 {t : Text} (h : [closingByte, closingByte] <+: t.utf8) :
    ∃ r, t = '\x7d' :: '\x7d' :: r :=
  exists_of_pair_utf8 (d := '\x7d') (by decide) h

theorem utf8_opening (t : Text) :
    Text.utf8 ('\x7b' :: '\x7b' :: t) = openingByte :: openingByte :: t.utf8 := rfl

/-- No other character has the byte of a brace in it. -/
theorem ne_of_mem_utf8EncodeChar {c : Char} (h : isBraceChar c = false) {b : UInt8}
    (hb : b ∈ String.utf8EncodeChar c) : b ≠ openingByte ∧ b ≠ closingByte := by
  constructor
  · rintro rfl
    obtain rfl := Text.eq_of_mem_utf8EncodeChar (d := '\x7b') (by decide) hb
    cases h
  · rintro rfl
    obtain rfl := Text.eq_of_mem_utf8EncodeChar (d := '\x7d') (by decide) hb
    cases h

/-- A text without braces has no byte of one. -/
theorem ne_of_mem_utf8 {t : Text} (h : ∀ c ∈ t, isBraceChar c = false) :
    ∀ b ∈ t.utf8, b ≠ openingByte ∧ b ≠ closingByte := by
  intro b hb
  obtain ⟨c, hc, hb⟩ := List.mem_flatMap.mp hb
  exact ne_of_mem_utf8EncodeChar (h c hc) hb

/-- Bytes other than those of braces are read one by one. -/
theorem Reads.append {depth left : Nat} {s body rest : List UInt8}
    (hs : ∀ b ∈ s, b ≠ openingByte ∧ b ≠ closingByte) (h : Reads (depth + 1) body rest left) :
    Reads (depth + 1) (s ++ body) rest left := by
  induction s with
  | nil => exact h
  | cons b s ih =>
    rw [List.forall_mem_cons] at hs
    refine .single ?_ (ih hs.2)
    rintro (⟨_, he⟩ | ⟨_, he⟩)
    · exact hs.1.1 (List.cons.inj he).1.symm
    · exact hs.1.2 (List.cons.inj he).1.symm

/-- A character that makes no pair with the next one is read by itself. -/
theorem Reads.char {depth left : Nat} {c : Char} {t u : Text}
    (hc : ∀ d ∈ (t ++ u).head?, c = d → isBraceChar c = false)
    (h : Reads (depth + 1) t.utf8 u.utf8 left) :
    Reads (depth + 1) (Text.utf8 (c :: t)) u.utf8 left := by
  cases hb : isBraceChar c with
  | false => exact .append (fun b => ne_of_mem_utf8EncodeChar hb) h
  | true =>
    have hascii : c.toNat ≤ 0x7f := by
      rcases Bool.or_eq_true_iff.mp hb with he | he <;> rw [beq_iff_eq.mp he] <;> decide
    have hone : Text.utf8 (c :: t) = UInt8.ofNat c.toNat :: t.utf8 := by
      rw [Text.utf8_cons, Text.utf8EncodeChar_of_ascii hascii, List.singleton_append]
    -- a pair of bytes would be a pair of characters
    have halone {d : Char} {r : Text} : c :: (t ++ u) ≠ d :: d :: r := by
      intro he
      obtain ⟨rfl, hr⟩ := List.cons.inj he
      rw [hc c (by rw [hr]; rfl) rfl] at hb
      cases hb
    rw [hone]
    refine .single ?_ h
    rw [← List.cons_append, ← hone, ← Text.utf8_append]
    rintro (hp | hp)
    · obtain ⟨r, hr⟩ := exists_of_opening_utf8 hp
      exact halone hr
    · obtain ⟨r, hr⟩ := exists_of_closing_utf8 hp
      exact halone hr

/-! ## The templates of a text -/

/-- The part of a text that closes open templates is what is read of its bytes. -/
theorem reads_balanced {depth : Nat} (hd : 0 < depth) (t : Text) :
    ∃ left, Reads depth (balanced depth t).1.utf8 (balanced depth t).2.utf8 left := by
  fun_induction balanced depth t with
  | case1 depth =>
    obtain ⟨depth, rfl⟩ := Nat.exists_eq_add_one.mpr hd
    exact ⟨_, .ended depth⟩
  | case2 depth c =>
    obtain ⟨depth, rfl⟩ := Nat.exists_eq_add_one.mpr hd
    exact ⟨_, Reads.char (t := []) (u := []) (by simp) (.ended depth)⟩
  | case3 depth c d r h ih =>
    obtain ⟨depth, rfl⟩ := Nat.exists_eq_add_one.mpr hd
    obtain ⟨rfl, rfl⟩ := h
    obtain ⟨left, hr⟩ := ih (Nat.succ_pos _)
    exact ⟨left, .opening hr⟩
  | case4 depth c d r _ h hle =>
    obtain rfl : depth = 1 := Nat.le_antisymm hle hd
    obtain ⟨rfl, rfl⟩ := h
    exact ⟨0, .closing (.closed _)⟩
  | case5 depth c d r _ h hlt ih =>
    obtain ⟨depth, rfl⟩ := Nat.exists_eq_add_one.mpr hd
    obtain ⟨rfl, rfl⟩ := h
    obtain ⟨left, hr⟩ := ih (by omega)
    exact ⟨left, .closing hr⟩
  | case6 depth c d r ho hc ih =>
    obtain ⟨depth, rfl⟩ := Nat.exists_eq_add_one.mpr hd
    obtain ⟨left, hr⟩ := ih hd
    refine ⟨left, .char (u := (balanced (depth + 1) (d :: r)).2) ?_ hr⟩
    rw [balanced_append]
    rintro e he rfl
    obtain rfl : d = c := Option.some.inj he
    rw [and_self] at ho hc
    simp [isBraceChar, ho, hc]

/-- Bytes other than that of an opening brace are skipped one by one. -/
theorem Segments.append {offset : Nat} {s bytes : List UInt8} {spans : List Span}
    (hs : ∀ b ∈ s, b ≠ openingByte) (h : Segments (offset + s.length) bytes spans) :
    Segments offset (s ++ bytes) spans := by
  induction s generalizing offset with
  | nil => exact h
  | cons b s ih =>
    rw [List.forall_mem_cons] at hs
    rw [List.length_cons, Nat.add_comm s.length, ← Nat.add_assoc] at h
    refine .prose ?_ (ih hs.2 h)
    rintro ⟨_, he⟩
    exact hs.1 (List.cons.inj he).1.symm

/-- A character that opens no template is skipped. -/
theorem Segments.char {offset : Nat} {c : Char} {t : Text} {spans : List Span}
    (hc : ∀ r, c :: t ≠ '\x7b' :: '\x7b' :: r) (h : Segments (offset + c.utf8Size) t.utf8 spans) :
    Segments offset (Text.utf8 (c :: t)) spans := by
  by_cases hb : c = '\x7b'
  · subst hb
    refine .prose (fun hp => ?_) h
    obtain ⟨r, hr⟩ := exists_of_opening_utf8 (t := '\x7b' :: t) hp
    exact hc r hr
  · refine .append ?_ (by rwa [String.length_utf8EncodeChar])
    rintro b hm rfl
    exact hb (Text.eq_of_mem_utf8EncodeChar (d := '\x7b') (by decide) hm)

/-- The templates of a text are those of its bytes. -/
theorem segments_templates (offset : Nat) (t : Text) :
    Segments offset t.utf8 ((templates offset t).map Excerpt.span) := by
  fun_induction templates offset t with
  | case1 offset => exact .done offset
  | case2 offset c => exact .char (by simp) (.done _)
  | case3 offset c d r h parts template ih =>
    obtain ⟨rfl, rfl⟩ := h
    obtain ⟨left, hr⟩ := reads_balanced Nat.one_pos r
    have hlast : Text.byteLength template = parts.1.utf8.length + 2 := by
      rw [← Text.length_utf8, utf8_opening]
      rfl
    have hbytes : Text.utf8 ('\x7b' :: '\x7b' :: r) =
        openingByte :: openingByte :: (parts.1.utf8 ++ parts.2.utf8) := by
      rw [utf8_opening, ← Text.utf8_append, balanced_append]
    rw [hlast] at ih
    rw [List.map_cons, Excerpt.span, hlast]
    exact .template hbytes hr ih
  | case4 offset c d r h ih =>
    refine .char (fun s hs => h ?_) ih
    obtain ⟨hc, hs⟩ := List.cons.inj hs
    exact ⟨hc, (List.cons.inj hs).1⟩

/-- A template starts where opening braces stand, and is as long as it takes to close them. -/
theorem exists_of_mem_templates {offset : Nat} {t : Text} {e : Excerpt}
    (h : e ∈ templates offset t) : ∃ front r, t = front ++ '\x7b' :: '\x7b' :: r ∧
      e = ⟨offset + front.byteLength, '\x7b' :: '\x7b' :: (balanced 1 r).1⟩ := by
  fun_induction templates offset t with
  | case1 => cases h
  | case2 => cases h
  | case3 offset c d r hb parts template ih =>
    obtain ⟨rfl, rfl⟩ := hb
    rcases List.mem_cons.mp h with rfl | h
    · exact ⟨[], r, rfl, rfl⟩
    · obtain ⟨front, s, hs, rfl⟩ := ih h
      refine ⟨template ++ front, s, ?_, ?_⟩
      · rw [List.append_assoc, ← hs]
        simp [template, parts, balanced_append]
      · rw [Text.byteLength_append, Nat.add_assoc]
  | case4 offset c d r _ ih =>
    obtain ⟨front, s, hs, rfl⟩ := ih h
    exact ⟨c :: front, s, by rw [hs, List.cons_append], by rw [Text.byteLength_cons, Nat.add_assoc]⟩

/-- Both ends of a template lie between characters of the page, and it is what stands there. -/
theorem slice?_of_mem_templates {page : Text} {e : Excerpt} (h : e ∈ templates 0 page) :
    page.slice? e.span.first e.span.last = some e.text := by
  obtain ⟨front, r, rfl, rfl⟩ := exists_of_mem_templates h
  have hs := Text.slice?_append front ('\x7b' :: '\x7b' :: (balanced 1 r).1) (balanced 1 r).2
  rw [List.append_assoc, List.cons_append, List.cons_append, balanced_append,
    Text.byteLength_append] at hs
  simpa [Excerpt.span] using hs

end WikiAxioms.Markup
