import WikiAxioms.Proofs.Decimal.Order
import WikiAxioms.Proofs.Decimal.Written

/-!
# The numbers that texts write

Which texts write a number, and which number, is said by position, without dropping any digit. The
main statement is that a text is read exactly when it writes a number, as the one decimal of that
number.
-/

namespace WikiAxioms.Decimal

/-- A sign or none, and the factor that it stands for. -/
inductive IsSign : Text → ℚ → Prop
  | none : IsSign [] 1
  | plus : IsSign ['+'] 1
  | minus : IsSign ['-'] (-1)

/-- One digit at least, with at most one point before, among or after the digits, and the number
that they write. -/
inductive IsMagnitude : Text → ℚ → Prop
  | whole {digits : Text} (hd : ∀ c ∈ digits, c.isDigit = true) (hn : digits ≠ []) :
      IsMagnitude digits (wholeValue digits)
  | pointed {before after : Text} (hd : ∀ c ∈ before ++ after, c.isDigit = true)
      (hn : before ++ after ≠ []) :
      IsMagnitude (before ++ '.' :: after) (wholeValue before + fractionValue after)

/-- The text, without white space around it, is a sign or none and digits that write the number. -/
def Writes (raw : Text) (x : ℚ) : Prop :=
  ∃ sign factor digits m, raw.trim = sign ++ digits ∧ IsSign sign factor ∧ IsMagnitude digits m ∧
    x = factor * m

/-! ## Needless zeros -/

theorem wholeValue_wholeOf (t : Text) : wholeValue (wholeOf t) = wholeValue t := by
  have h : wholeValue (t.dropWhile (· == '0')) = wholeValue t := by
    induction t with
    | nil => rfl
    | cons c t ih =>
      by_cases hc : c = '0'
      · subst hc
        simpa [wholeValue, digitValue] using ih
      · simp [hc]
  rw [← h, wholeOf]
  split
  · next hd => rw [hd]; rfl
  · next hd => rw [hd]

theorem fractionValue_append_zero (t : Text) : fractionValue (t ++ ['0']) = fractionValue t := by
  induction t with
  | nil => simp [fractionValue_cons, digitValue]
  | cons c t ih => rw [List.cons_append, fractionValue_cons, fractionValue_cons, ih]

theorem fractionValue_fractionOf (t : Text) : fractionValue (fractionOf t) = fractionValue t := by
  change fractionValue (t.rdropWhile (· == '0')) = fractionValue t
  induction t using List.reverseRecOn with
  | nil => rfl
  | append_singleton t c ih =>
    rw [List.rdropWhile_concat]
    split
    · next hc => rw [ih, beq_iff_eq.mp hc, fractionValue_append_zero]
    · rfl

/-- The number of digits and a sign is kept when zeros are dropped, and the sign of zero. -/
theorem value_ofDigits (negative : Bool) (before after : Text)
    (hb : before.all Char.isDigit = true) (ha : after.all Char.isDigit = true) :
    (ofDigits negative before after hb ha).value =
      (if negative then -1 else 1) * (wholeValue before + fractionValue after) := by
  have hm : (ofDigits negative before after hb ha).magnitude =
      wholeValue before + fractionValue after := by
    rw [magnitude, ofDigits, wholeValue_wholeOf, fractionValue_fractionOf]
  rw [value, hm]
  by_cases hz : wholeOf before = ['0'] ∧ fractionOf after = []
  · have h0 : (wholeValue before : ℚ) + fractionValue after = 0 := by
      rw [← wholeValue_wholeOf, ← fractionValue_fractionOf after, hz.1, hz.2]
      simp [wholeValue, digitValue]
    simp [h0]
  · have hn : (ofDigits negative before after hb ha).negative = negative := by
      rw [not_and_or] at hz
      simpa [ofDigits] using fun _ => hz
    rw [hn]
    cases negative <;> simp

/-! ## Reading -/

theorem isSign_splitSign (t : Text) :
    ∃ sign, t = sign ++ (splitSign t).2 ∧ IsSign sign (if (splitSign t).1 then -1 else 1) := by
  unfold splitSign
  split
  · exact ⟨['-'], rfl, .minus⟩
  · exact ⟨['+'], rfl, .plus⟩
  · exact ⟨[], rfl, .none⟩

/-- What stands before the first point and after it, or all of it and nothing. -/
theorem splitPoint_cases (t : Text) :
    (t = (splitPoint t).1 ∧ (splitPoint t).2 = []) ∨
      t = (splitPoint t).1 ++ '.' :: (splitPoint t).2 := by
  cases hc : t.cutAt ['.'] with
  | none => exact .inl (by simp [splitPoint, hc])
  | some parts =>
    have ht := Text.eq_of_cutAt hc
    exact .inr (by simpa [splitPoint, hc] using ht)

/-- A decimal that is read has the number that the text writes. -/
theorem writes_of_ofText {raw : Text} {d : Decimal} (h : Decimal.ofText raw = .ok d) :
    Writes raw d.value := by
  unfold Decimal.ofText at h
  dsimp only at h
  split at h
  · next hd =>
    split at h
    · cases h
    · next hn =>
      obtain rfl := Except.ok.inj h
      obtain ⟨sign, ht, hs⟩ := isSign_splitSign raw.trim
      refine ⟨sign, _, _, _, ht, hs, ?_, value_ofDigits _ _ _ hd.1 hd.2⟩
      rw [List.all_eq_true, List.all_eq_true] at hd
      rcases splitPoint_cases (splitSign raw.trim).2 with ⟨hp, ha⟩ | hp
      · have hw := IsMagnitude.whole hd.1 fun hb => hn ⟨hb, ha⟩
        rw [ha, fractionValue_nil, add_zero]
        rwa [← hp] at hw ⊢
      · have hw := IsMagnitude.pointed (List.forall_mem_append.mpr hd)
          fun hb => hn (List.append_eq_nil_iff.mp hb)
        rwa [← hp] at hw
  · cases h

/-- Digits do not look like a sign. -/
theorem splitSign_of_isMagnitude {t : Text} {m : ℚ} (h : IsMagnitude t m) :
    splitSign t = (false, t) := by
  have hc : ∀ c ∈ t, c ≠ '-' ∧ c ≠ '+' := by
    have digit : ∀ c : Char, c.isDigit = true → c ≠ '-' ∧ c ≠ '+' := by
      intro c hc
      constructor <;> rintro rfl <;> simp at hc
    cases h with
    | whole hd _ => exact fun c hm => digit c (hd c hm)
    | @pointed before after hd _ =>
      intro c hm
      rcases List.mem_append.mp hm with hm | hm
      · exact digit c (hd c (List.mem_append_left _ hm))
      · rcases List.mem_cons.mp hm with rfl | hm
        · decide
        · exact digit c (hd c (List.mem_append_right _ hm))
  cases t with
  | nil => rfl
  | cons c t =>
    obtain ⟨h₁, h₂⟩ := hc c (by simp)
    unfold splitSign
    split
    · next he => cases he; exact absurd rfl h₁
    · next he => cases he; exact absurd rfl h₂
    · rfl

theorem splitSign_append {sign digits : Text} {factor m : ℚ} (hs : IsSign sign factor)
    (hd : IsMagnitude digits m) :
    ∃ negative, splitSign (sign ++ digits) = (negative, digits) ∧
      factor = if negative then -1 else 1 := by
  cases hs with
  | none => exact ⟨false, splitSign_of_isMagnitude hd, rfl⟩
  | plus => exact ⟨false, rfl, rfl⟩
  | minus => exact ⟨true, rfl, rfl⟩

theorem splitPoint_of_isMagnitude {t : Text} {m : ℚ} (h : IsMagnitude t m) :
    ∃ before after, splitPoint t = (before, after) ∧ before.all Char.isDigit = true ∧
      after.all Char.isDigit = true ∧ ¬ (before = [] ∧ after = []) ∧
      m = wholeValue before + fractionValue after := by
  cases h with
  | whole hd hn =>
    have hd := List.all_eq_true.mpr hd
    exact ⟨t, [], splitPoint_of_isDigit hd, hd, rfl, fun h => hn h.1, by simp⟩
  | @pointed before after hd hn =>
    rw [List.forall_mem_append] at hd
    have hb := List.all_eq_true.mpr hd.1
    have ha := List.all_eq_true.mpr hd.2
    exact ⟨before, after, splitPoint_point hb after, hb, ha,
      fun h => hn (List.append_eq_nil_iff.mpr h), rfl⟩

/-- A text that writes a number is read. -/
theorem ofText_of_writes {raw : Text} {x : ℚ} (h : Writes raw x) :
    ∃ d, Decimal.ofText raw = .ok d ∧ d.value = x := by
  obtain ⟨sign, factor, digits, m, ht, hs, hd, rfl⟩ := h
  obtain ⟨negative, hsign, rfl⟩ := splitSign_append hs hd
  obtain ⟨before, after, hpoint, hb, ha, hn, rfl⟩ := splitPoint_of_isMagnitude hd
  refine ⟨ofDigits negative before after hb ha, ?_, value_ofDigits negative before after hb ha⟩
  simp only [Decimal.ofText, ht, hsign, hpoint, hb, ha, hn, and_self, dif_pos, if_false]

theorem writes_iff {raw : Text} {x : ℚ} :
    Writes raw x ↔ ∃ d, Decimal.ofText raw = .ok d ∧ d.value = x :=
  ⟨ofText_of_writes, fun ⟨_, hd, hx⟩ => hx ▸ writes_of_ofText hd⟩

/-- The number of the decimal that is read is the only one that the text writes. -/
theorem writes_iff_of_ofText {raw : Text} {d : Decimal} (h : Decimal.ofText raw = .ok d) {x : ℚ} :
    Writes raw x ↔ x = d.value := by
  rw [writes_iff]
  constructor
  · rintro ⟨d', hd', rfl⟩
    rw [h] at hd'
    rw [Except.ok.inj hd']
  · rintro rfl
    exact ⟨d, h, rfl⟩

/-- A text that writes no number is at fault as it was given. -/
theorem ofText_eq_error_iff {raw : Text} {fault : Fault} :
    Decimal.ofText raw = .error fault ↔ (∀ x, ¬ Writes raw x) ∧ fault = ⟨raw⟩ := by
  have hraw : ∀ fault, Decimal.ofText raw = .error fault → fault = ⟨raw⟩ := by
    intro fault h
    unfold Decimal.ofText at h
    dsimp only at h
    split at h
    · split at h
      · exact (Except.error.inj h).symm
      · cases h
    · exact (Except.error.inj h).symm
  simp only [writes_iff]
  cases h : Decimal.ofText raw with
  | ok d => simp
  | error fault' =>
    obtain rfl := hraw fault' h
    simp [eq_comm]

theorem isBlank_of_ofText {raw : Text} {d : Decimal} (h : Decimal.ofText raw = .ok d) :
    raw.isBlank = false := by
  by_contra hb
  have ht : raw.trim = [] := (Text.trim_eq_nil_iff raw).mpr (by simpa using hb)
  have he : Decimal.ofText raw = .error ⟨raw⟩ := by
    simp [Decimal.ofText, ht, splitSign, splitPoint, Text.cutAt]
  rw [he] at h
  cases h

/-- A text is read exactly when it writes a number. The decimal has that number and no other text
of the number is read as another decimal; its own text is read as it. -/
theorem ofText_exact (raw : Text) :
    ((∃ d, Decimal.ofText raw = .ok d) ↔ ∃ x, Writes raw x) ∧
      ∀ d, Decimal.ofText raw = .ok d →
        (∀ x, Writes raw x ↔ x = d.value) ∧
        (∀ raw' d', Decimal.ofText raw' = .ok d' → (d = d' ↔ ∃ x, Writes raw x ∧ Writes raw' x)) ∧
        Decimal.ofText d.text = .ok d := by
  constructor
  · simp only [writes_iff]
    exact ⟨fun ⟨d, h⟩ => ⟨_, d, h, rfl⟩, fun ⟨_, d, h, _⟩ => ⟨d, h⟩⟩
  · intro d hd
    refine ⟨fun x => writes_iff_of_ofText hd, fun raw' d' hd' => ?_, ofText_text d⟩
    simp only [writes_iff_of_ofText hd, writes_iff_of_ofText hd', exists_eq_left]
    exact value_inj.symm

/-- Needless zeros on both sides, and two ways to write one number. -/
theorem ofText_exact_zeros :
    let d : Decimal := ⟨true, "7", "5", by decide, by decide, by decide, by decide⟩
    Decimal.ofText " -007.50" = .ok d ∧ Decimal.ofText "-7.5\n" = .ok d ∧
      (∀ x, Writes " -007.50" x ↔ x = d.value) ∧
      (d = d ↔ ∃ x, Writes " -007.50" x ∧ Writes "-7.5\n" x) ∧
      Decimal.ofText d.text = .ok d := by
  intro d
  have h : Decimal.ofText " -007.50" = .ok d := by rfl
  have h' : Decimal.ofText "-7.5\n" = .ok d := by rfl
  have he := (ofText_exact " -007.50").2 d h
  exact ⟨h, h', he.1, he.2.1 _ d h', he.2.2⟩

end WikiAxioms.Decimal
