import WikiAxioms.Proofs.Decimal.Written

/-!
# Identifiers written and read again
-/

namespace WikiAxioms

/-- A letter followed by one or more decimal digits, the first of which is not zero. -/
def IsIdentifier (letter : Char) (t : Text) : Prop :=
  ∃ first rest, t = letter :: first :: rest ∧ first ≠ '0' ∧
    ∀ c ∈ first :: rest, c.isDigit = true

namespace EntityId

variable {kind : EntityKind}

theorem all_isDigit (id : EntityId kind) : id.digits.all Char.isDigit = true :=
  Decimal.all_isDigit_of_isWhole (by rw [isWhole, id.numeral, Bool.or_true])

/-- The text of an identifier has the one form of identifiers of its kind. -/
theorem isIdentifier_text (id : EntityId kind) : IsIdentifier kind.letter id.text := by
  have hd := List.all_eq_true.mp id.all_isDigit
  have hn := id.numeral
  rw [text]
  cases hs : id.digits with
  | nil => simp [hs, isNumeral] at hn
  | cons first rest =>
    rw [hs, isNumeral, Bool.and_eq_true, bne_iff_ne] at hn
    exact ⟨first, rest, rfl, hn.1, hs ▸ hd⟩

theorem isDigit_of_mem_text {id : EntityId kind} {c : Char} (h : c ∈ id.text) :
    c = kind.letter ∨ c.isDigit = true := by
  rw [text, List.mem_cons] at h
  rcases h with h | h
  · exact .inl h
  · exact .inr (List.all_eq_true.mp id.all_isDigit c h)

theorem isSpace_of_mem_text {id : EntityId kind} {c : Char} (h : c ∈ id.text) :
    isSpace c = false := by
  rcases isDigit_of_mem_text h with rfl | h
  · cases kind <;> rfl
  · exact isSpace_of_isDigit h

/-- The text of an identifier is trimmed. -/
theorem trim_text (id : EntityId kind) : Text.trim id.text = id.text :=
  Text.trim_of_no_space fun _ => isSpace_of_mem_text

/-- The text of an identifier is read as the identifier. -/
theorem ofText_text (id : EntityId kind) : EntityId.ofText kind id.text = .ok id := by
  have hu : kind.letter.toUpper = kind.letter := by cases kind <;> rfl
  rw [EntityId.ofText, trim_text]
  simp [text, hu, id.numeral]

theorem toUpper_eq_letter_iff {c : Char} :
    c.toUpper = kind.letter ↔ c = kind.letter ∨ c = kind.letter.toLower := by
  constructor
  · intro h
    by_cases hs : c.val ≥ 'a'.val ∧ c.val ≤ 'z'.val
    · obtain ⟨hvalid, hc⟩ : ∃ hvalid, c.toUpper = ⟨c.val + ('A'.val - 'a'.val), hvalid⟩ :=
        ⟨_, dif_pos hs⟩
      have hv : c.val = kind.letter.val - ('A'.val - 'a'.val) := by
        rw [← h, hc, UInt32.add_sub_cancel]
      refine .inr (Char.ext (hv.trans ?_))
      cases kind <;> decide
    · exact .inl ((dif_neg hs).symm.trans h)
  · rintro (rfl | rfl) <;> cases kind <;> rfl

/-- The text is the letter of the kind, in either case, and the digits of the identifier. -/
def IsSpelled (id : EntityId kind) (t : Text) : Prop :=
  ∃ letter, (letter = kind.letter ∨ letter = kind.letter.toLower) ∧ t = letter :: id.digits

/-- An identifier is read from its spellings, white space around them aside. -/
theorem ofText_eq_ok_iff {raw : Text} {id : EntityId kind} :
    ofText kind raw = .ok id ↔ id.IsSpelled raw.trim := by
  rw [ofText]
  split
  · next h =>
    rw [h]
    constructor
    · intro he
      cases he
    · rintro ⟨letter, -, hs⟩
      cases hs
  · next c digits h =>
    rw [h, IsSpelled]
    by_cases hf : c.toUpper = kind.letter ∧ isNumeral digits = true
    · rw [dif_pos hf, Except.ok.injEq]
      constructor
      · rintro rfl
        exact ⟨c, toUpper_eq_letter_iff.mp hf.1, rfl⟩
      · rintro ⟨letter, -, hs⟩
        cases hs
        rfl
    · rw [dif_neg hf]
      constructor
      · intro he
        cases he
      · rintro ⟨letter, hl, hs⟩
        cases hs
        exact absurd ⟨toUpper_eq_letter_iff.mpr hl, id.numeral⟩ hf

/-- What spells no identifier is at fault as a whole, unless there is nothing in it. -/
theorem ofText_eq_error_iff_forall_not_isSpelled {raw : Text} {fault : Fault} :
    ofText kind raw = .error fault ↔ (∀ id : EntityId kind, ¬ id.IsSpelled raw.trim) ∧
      fault = if raw.trim = [] then .empty kind else .malformed kind raw := by
  have hfault : (∀ id : EntityId kind, ¬ id.IsSpelled raw.trim) →
      ofText kind raw = .error (if raw.trim = [] then .empty kind else .malformed kind raw) := by
    intro h
    rw [ofText]
    cases ht : raw.trim with
    | nil => rfl
    | cons c digits =>
      have hf : ¬ (c.toUpper = kind.letter ∧ isNumeral digits = true) := fun hf =>
        h ⟨digits, hf.2⟩ (ht ▸ ⟨c, toUpper_eq_letter_iff.mp hf.1, rfl⟩)
      simp [dif_neg hf]
  constructor
  · intro h
    have hn : ∀ id : EntityId kind, ¬ id.IsSpelled raw.trim := fun id hs => by
      rw [ofText_eq_ok_iff.mpr hs] at h
      cases h
    rw [hfault hn] at h
    exact ⟨hn, (Except.error.inj h).symm⟩
  · rintro ⟨hn, rfl⟩
    exact hfault hn

/-! ## What is read as an identifier -/

/-- The text is an identifier with the letter of the kind in either case, white space around it
aside, and has `digits` behind the letter. -/
def IsWritten (kind : EntityKind) (digits raw : Text) : Prop :=
  ∃ lead letter trail, raw = lead ++ letter :: digits ++ trail ∧
    lead.isBlank = true ∧ trail.isBlank = true ∧
    (letter = kind.letter ∨ letter = kind.letter.toLower) ∧ IsIdentifier letter (letter :: digits)

theorem isNumeral_iff {letter : Char} {digits : Text} :
    isNumeral digits = true ↔ IsIdentifier letter (letter :: digits) := by
  cases digits with
  | nil => simp [isNumeral, IsIdentifier]
  | cons first rest =>
    rw [isNumeral, Bool.and_eq_true, bne_iff_ne, List.all_eq_true]
    constructor
    · rintro ⟨hz, hd⟩
      exact ⟨first, rest, rfl, hz, hd⟩
    · rintro ⟨_, _, h, hz, hd⟩
      cases h
      exact ⟨hz, hd⟩

theorem isSpace_of_isLetter {letter : Char}
    (h : letter = kind.letter ∨ letter = kind.letter.toLower) : isSpace letter = false := by
  rcases h with rfl | rfl <;> cases kind <;> rfl

/-- Trimming finds the identifier, since neither its letter nor a digit is white space. -/
theorem isWritten_iff {digits raw : Text} :
    IsWritten kind digits raw ↔
      ∃ id : EntityId kind, id.digits = digits ∧ id.IsSpelled raw.trim := by
  constructor
  · rintro ⟨lead, letter, trail, rfl, hl, hr, hc, hi⟩
    have hn := isNumeral_iff.mpr hi
    obtain ⟨first, rest, hd, -, hdigits⟩ := hi
    obtain ⟨-, rfl⟩ := List.cons.inj hd
    have hs : ∀ c ∈ letter :: first :: rest, isSpace c = false :=
      List.forall_mem_cons.mpr
        ⟨isSpace_of_isLetter hc, fun c hm => isSpace_of_isDigit (hdigits c hm)⟩
    exact ⟨⟨_, hn⟩, rfl, letter, hc,
      Text.trim_between hl (Text.trim_of_no_space hs) (List.cons_ne_nil _ _) hr⟩
  · rintro ⟨id, rfl, letter, hc, hs⟩
    obtain ⟨lead, trail, hraw, hl, hr⟩ := Text.exists_trim raw
    rw [hs] at hraw
    exact ⟨lead, letter, trail, hraw, List.all_eq_true.mpr hl, List.all_eq_true.mpr hr, hc,
      isNumeral_iff.mp id.numeral⟩

theorem isWritten_iff_ofText {digits raw : Text} :
    IsWritten kind digits raw ↔ ∃ id, ofText kind raw = .ok id ∧ id.digits = digits := by
  simp only [isWritten_iff, ofText_eq_ok_iff, and_comm]

theorem not_isWritten_of_isBlank {raw : Text} (h : raw.isBlank = true) (digits : Text) :
    ¬ IsWritten kind digits raw := by
  rintro ⟨lead, letter, trail, rfl, -, -, hc, -⟩
  rw [Text.isBlank, List.all_eq_true] at h
  have hs := h letter (by simp)
  rw [isSpace_of_isLetter hc] at hs
  cases hs

/-- A text at fault writes no identifier; whether it is blank decides the fault. -/
theorem ofText_eq_error_iff {raw : Text} {fault : Fault} :
    ofText kind raw = .error fault ↔ (∀ digits, ¬ IsWritten kind digits raw) ∧
      fault = if raw.isBlank = true then .empty kind else .malformed kind raw := by
  rw [ofText_eq_error_iff_forall_not_isSpelled]
  simp only [Text.trim_eq_nil_iff, isWritten_iff, not_exists, not_and]
  exact and_congr_left' ⟨fun h _ id _ => h id, fun h id => h _ id rfl⟩

/-- A text is read exactly when it writes an identifier, and then as the one with the capital letter
and the same digits. A blank text is empty, any other that writes none is malformed as it was given.
The text of an identifier is read as the identifier, and two texts are read as one identifier
exactly if they have the same digits. -/
theorem ofText_canonical (kind : EntityKind) (raw : Text) :
    (∀ t, (∃ id, ofText kind raw = .ok id ∧ id.text = t) ↔
      ∃ digits, IsWritten kind digits raw ∧ t = kind.letter :: digits) ∧
    (ofText kind raw = .error (.empty kind) ↔ raw.isBlank = true) ∧
    (ofText kind raw = .error (.malformed kind raw) ↔
      raw.isBlank = false ∧ ∀ digits, ¬ IsWritten kind digits raw) ∧
    (∀ id : EntityId kind, ofText kind id.text = .ok id) ∧
    ∀ other digits digits', IsWritten kind digits raw → IsWritten kind digits' other →
      ∃ id id', ofText kind raw = .ok id ∧ ofText kind other = .ok id' ∧
        (id = id' ↔ digits = digits') := by
  refine ⟨fun t => ?_, ?_, ?_, ofText_text, fun other digits digits' h h' => ?_⟩
  · simp only [isWritten_iff_ofText]
    constructor
    · rintro ⟨id, hid, rfl⟩
      exact ⟨id.digits, ⟨id, hid, rfl⟩, rfl⟩
    · rintro ⟨_, ⟨id, hid, rfl⟩, rfl⟩
      exact ⟨id, hid, rfl⟩
  · rw [ofText_eq_error_iff]
    by_cases hb : raw.isBlank = true
    · simp [hb, not_isWritten_of_isBlank hb]
    · simp [hb]
  · rw [ofText_eq_error_iff, and_comm]
    by_cases hb : raw.isBlank = true <;> simp [hb]
  · obtain ⟨id, hid, rfl⟩ := isWritten_iff_ofText.mp h
    obtain ⟨id', hid', rfl⟩ := isWritten_iff_ofText.mp h'
    refine ⟨id, id', hid, hid', fun he => congrArg digits he, fun he => ?_⟩
    cases id
    cases id'
    cases he
    rfl

/-- A small letter between an ideographic space and a line feed, and a capital one on its own. -/
theorem ofText_canonical_spaces :
    let raw : Text := ['\u3000', 'q', '4', '2', '\n']
    let other : Text := ['Q', '4', '2']
    IsWritten .item ['4', '2'] raw ∧ IsWritten .item ['4', '2'] other ∧
      (∃ id, ofText .item raw = .ok id ∧ id.text = other) ∧
      ∃ id id', ofText .item raw = .ok id ∧ ofText .item other = .ok id' ∧ id = id' := by
  intro raw other
  have hraw : IsWritten .item ['4', '2'] raw :=
    ⟨['\u3000'], 'q', ['\n'], rfl, by decide, by decide, .inr rfl, isNumeral_iff.mp (by decide)⟩
  have hother : IsWritten .item ['4', '2'] other :=
    ⟨[], 'Q', [], rfl, rfl, rfl, .inl rfl, isNumeral_iff.mp (by decide)⟩
  obtain ⟨hread, -, -, -, hsame⟩ := ofText_canonical .item raw
  obtain ⟨id, id', hid, hid', he⟩ := hsame other _ _ hraw hother
  exact ⟨hraw, hother, (hread other).mpr ⟨_, hraw, rfl⟩, id, id', hid, hid', he.mpr rfl⟩

end EntityId

end WikiAxioms
