import WikiAxioms.Proofs.Decimal.Value
import WikiAxioms.Proofs.Text.Search
import WikiAxioms.Proofs.Text.Trim

/-!
# Decimals written and read again

The text of a decimal has digits, at most one point and at most one sign, and no white space; it is
read as the same decimal, since a decimal keeps no needless zeros.
-/

namespace WikiAxioms

/-- Printable characters of ASCII are no white space. -/
theorem isSpace_eq_false {c : Char} (h : 0x20 < c.toNat) (h' : c.toNat < 0x7F) :
    isSpace c = false := by
  simp only [isSpace, Bool.or_eq_false_iff, Bool.and_eq_false_iff, decide_eq_false_iff_not,
    beq_eq_false_iff_ne]
  omega

theorem isSpace_of_isDigit {c : Char} (h : c.isDigit = true) : isSpace c = false := by
  have hc := (Decimal.isDigit_iff c).mp h
  exact isSpace_eq_false (by omega) (by omega)

namespace Decimal

theorem wholeOf_eq_self {t : Text} (h : isWhole t = true) : wholeOf t = t := by
  rw [isWhole, Bool.or_eq_true, beq_iff_eq] at h
  rcases h with rfl | h
  · decide
  · cases t with
    | nil => simp [isNumeral] at h
    | cons c t =>
      rw [isNumeral, Bool.and_eq_true, bne_iff_ne] at h
      simp [wholeOf, h.1]

theorem fractionOf_eq_self {t : Text} (h : t.getLast? ≠ some '0') : fractionOf t = t := by
  rw [← List.head?_reverse] at h
  have hd : t.reverse.dropWhile (· == '0') = t.reverse := by
    cases hr : t.reverse with
    | nil => rfl
    | cons c r =>
      have hc : c ≠ '0' := by rintro rfl; simp [hr] at h
      simp [hc]
  rw [fractionOf, hd, List.reverse_reverse]

/-- The digits of a decimal and its sign make the decimal again. -/
theorem ofDigits_eq (d : Decimal) (hi : d.integer.all Char.isDigit = true) :
    ofDigits d.negative d.integer d.fraction hi d.digits = d := by
  have hw := wholeOf_eq_self d.whole
  have hf := fractionOf_eq_self d.tight
  have hs : (d.negative && !(d.integer == ['0'] && d.fraction == [])) = d.negative := by
    cases hn : d.negative with
    | false => rfl
    | true =>
      have hz := d.signed hn
      rw [not_and_or] at hz
      simpa using hz
  cases d
  simp only at hw hf hs
  simp only [ofDigits, hw, hf, hs]

theorem not_mem_of_all_isDigit {t : Text} (h : t.all Char.isDigit = true) : '.' ∉ t := fun hm => by
  have := List.all_eq_true.mp h _ hm
  simp at this

/-- Digits without a point are all before it. -/
theorem splitPoint_of_isDigit {t : Text} (h : t.all Char.isDigit = true) :
    splitPoint t = (t, []) := by
  have hi : ¬ ['.'] <:+: t := fun hi => not_mem_of_all_isDigit h (hi.subset (by simp))
  have hc : t.cutAt ['.'] = none := Text.cutAt_eq_none_iff.mpr hi
  simp [splitPoint, hc]

theorem splitPoint_point {before : Text} (h : before.all Char.isDigit = true) (after : Text) :
    splitPoint (before ++ '.' :: after) = (before, after) := by
  have hi : ¬ ['.'] <:+: before := fun hi => not_mem_of_all_isDigit h (hi.subset (by simp))
  have hc : Text.cutAt (before ++ ['.'] ++ after) ['.'] = some (before, after) :=
    Text.cutAt_append (by simp) hi after
  rw [List.append_assoc, List.singleton_append] at hc
  simp [splitPoint, hc]

theorem splitPoint_digits {before : Text} (h : before.all Char.isDigit = true) (after : Text) :
    splitPoint (before ++ if after = [] then [] else '.' :: after) = (before, after) := by
  split
  · next ha => rw [List.append_nil, splitPoint_of_isDigit h, ha]
  · exact splitPoint_point h after

theorem isDigit_of_mem_text {d : Decimal} {c : Char} (h : c ∈ d.text) :
    c.isDigit = true ∨ c = '-' ∨ c = '.' := by
  have hi := List.all_eq_true.mp (all_isDigit_of_isWhole d.whole)
  have hf := List.all_eq_true.mp d.digits
  rw [text, List.mem_append, List.mem_append] at h
  rcases h with (h | h) | h
  · split at h
    · exact .inr (.inl (List.mem_singleton.mp h))
    · cases h
  · exact .inl (hi c h)
  · split at h
    · cases h
    · rcases List.mem_cons.mp h with h | h
      · exact .inr (.inr h)
      · exact .inl (hf c h)

theorem isSpace_of_mem_text {d : Decimal} {c : Char} (h : c ∈ d.text) : isSpace c = false := by
  rcases isDigit_of_mem_text h with h | rfl | rfl
  · exact isSpace_of_isDigit h
  · rfl
  · rfl

/-- The text of a decimal is trimmed. -/
theorem trim_text (d : Decimal) : Text.trim d.text = d.text :=
  Text.trim_of_no_space fun _ => isSpace_of_mem_text

theorem splitSign_of_isDigit {c : Char} (h : c.isDigit = true) (t : Text) :
    splitSign (c :: t) = (false, c :: t) := by
  unfold splitSign
  split
  · next he => cases he; simp at h
  · next he => cases he; simp at h
  · rfl

theorem splitSign_text (d : Decimal) : splitSign d.text =
    (d.negative, d.integer ++ if d.fraction = [] then [] else '.' :: d.fraction) := by
  cases hn : d.negative with
  | true => simp [text, hn, splitSign]
  | false =>
    have hi := all_isDigit_of_isWhole d.whole
    have hl := length_pos_of_isWhole d.whole
    cases ht : d.integer with
    | nil => simp [ht] at hl
    | cons c t =>
      rw [ht, List.all_cons, Bool.and_eq_true] at hi
      simp [text, hn, ht, splitSign_of_isDigit hi.1]

/-- The text of a decimal is read as the decimal. -/
theorem ofText_text (d : Decimal) : Decimal.ofText d.text = .ok d := by
  have hi := all_isDigit_of_isWhole d.whole
  have hs := splitPoint_digits hi d.fraction
  have hne : d.integer ≠ [] := List.ne_nil_of_length_pos (length_pos_of_isWhole d.whole)
  simp only [Decimal.ofText, trim_text, splitSign_text, hs, hi, d.digits, hne, false_and, if_false,
    and_self, dif_pos, ofDigits_eq]

/-- A decimal is written in its one canonical form: there are digits before the point, with no
needless zeros on either side of it, and what has a sign is negative. -/
structure IsCanonical (d : Decimal) : Prop where
  integer_ne_nil : d.integer ≠ []
  integer_isDigit : ∀ c ∈ d.integer, c.isDigit = true
  integer_eq_zero : d.integer.head? = some '0' → d.integer = ['0']
  fraction_isDigit : ∀ c ∈ d.fraction, c.isDigit = true
  fraction_getLast?_ne : d.fraction.getLast? ≠ some '0'
  value_neg : d.negative = true → d.value < 0

/-- Every decimal is canonical. -/
theorem isCanonical (d : Decimal) : d.IsCanonical where
  integer_ne_nil := List.ne_nil_of_length_pos (length_pos_of_isWhole d.whole)
  integer_isDigit := List.all_eq_true.mp (all_isDigit_of_isWhole d.whole)
  integer_eq_zero := by
    intro hz
    obtain ⟨r, hr⟩ := List.head?_eq_some_iff.mp hz
    have h := d.whole
    rw [isWhole, hr, isNumeral] at h
    simpa [hr] using h
  fraction_isDigit := List.all_eq_true.mp d.digits
  fraction_getLast?_ne := d.tight
  value_neg := by
    intro hn
    have hm := magnitude_pos_of_negative hn
    rw [value, if_pos hn]
    linarith

end Decimal

end WikiAxioms
