import WikiAxioms.Proofs.Decimal.Value

/-!
# The order of decimals

Decimals that compare as equal are equal, since neither an integer nor a fraction has a needless
zero to be told apart by. So a number is written by one decimal only, and comparing orders decimals
as it orders the numbers. Fractions of unlike length compare as if zeros filled up the shorter one.
-/

namespace WikiAxioms.Decimal

theorem getLast?_tail_ne {c d : Char} {t : Text} (h : (c :: t).getLast? ≠ some d) :
    t.getLast? ≠ some d :=
  fun ht => h (List.mem_getLast?_cons ht)

/-- Fractions without needless zeros are equal if they compare so. -/
theorem eq_of_compareFractions {r s : Text} (hr : r.all Char.isDigit = true)
    (hs : s.all Char.isDigit = true) (hr' : r.getLast? ≠ some '0') (hs' : s.getLast? ≠ some '0')
    (h : compareFractions r s = .eq) : r = s := by
  have hv : fractionValue r = fractionValue s := (compares_fractions hr hs).eq_eq.mp h
  induction r generalizing s with
  | nil =>
    rw [fractionValue_nil] at hv
    exact (eq_nil_of_fractionValue_eq_zero hs hs' hv.symm).symm
  | cons c r ih =>
    cases s with
    | nil =>
      rw [fractionValue_nil] at hv
      exact eq_nil_of_fractionValue_eq_zero hr hr' hv
    | cons d s =>
      rw [List.all_cons, Bool.and_eq_true] at hr hs
      rw [compareFractions, Ordering.then_eq_eq] at h
      have he := (compares_fractions hr.2 hs.2).eq_eq.mp h.2
      rw [Std.LawfulEqOrd.eq_of_compare h.1,
        ih hr.2 hs.2 (getLast?_tail_ne hr') (getLast?_tail_ne hs') h.2 he]

/-! ## Fractions filled up with zeros -/

theorem compareFractions_swap (r s : Text) :
    compareFractions r s = (compareFractions s r).swap := by
  fun_induction compareFractions r s with
  | case1 => rw [compareFractions, Ordering.swap_eq]
  | case2 d s ih =>
    rw [compareFractions, Ordering.swap_then, ← Std.OrientedOrd.eq_swap, ih]
  | case3 c r ih =>
    rw [compareFractions, Ordering.swap_then, ← Std.OrientedOrd.eq_swap, ih]
  | case4 c r d s ih =>
    rw [compareFractions, Ordering.swap_then, ← Std.OrientedOrd.eq_swap, ih]

theorem compareFractions_zeros (n : Nat) (s : Text) :
    compareFractions (List.replicate n '0') s = compareFractions [] s := by
  induction n generalizing s with
  | zero => rfl
  | succ n ih =>
    cases s with
    | nil => simp [List.replicate_succ, compareFractions, ih]
    | cons d s => rw [List.replicate_succ, compareFractions, compareFractions, ih]

/-- Zeros at the end of a fraction do not count. -/
theorem compareFractions_append_zeros (r s : Text) (n : Nat) :
    compareFractions (r ++ List.replicate n '0') s = compareFractions r s := by
  induction r generalizing s with
  | nil => exact compareFractions_zeros n s
  | cons c r ih =>
    cases s with
    | nil => rw [List.cons_append, compareFractions, compareFractions, ih]
    | cons d s => rw [List.cons_append, compareFractions, compareFractions, ih]

/-- Comparing digit by digit is comparing the texts that zeros fill up to one length. -/
theorem compareFractions_eq_compare (r s : Text) : compareFractions r s =
    compare (r ++ List.replicate (s.length - r.length) '0')
      (s ++ List.replicate (r.length - s.length) '0') := by
  rw [compare_eq_compareFractions (by simp; omega), compareFractions_append_zeros,
    compareFractions_swap r (s ++ _), compareFractions_append_zeros, ← compareFractions_swap]

/-! ## The order -/

theorem eq_of_compareMagnitude {a b : Decimal} (h : compareMagnitude a b = .eq) :
    a.integer = b.integer ∧ a.fraction = b.fraction := by
  rw [compareMagnitude, Ordering.then_eq_eq, Ordering.then_eq_eq] at h
  exact ⟨Std.LawfulEqOrd.eq_of_compare h.2.1,
    eq_of_compareFractions a.digits b.digits a.tight b.tight h.2.2⟩

theorem eq_of_compare {a b : Decimal} (h : compare a b = .eq) : a = b := by
  change Decimal.compare a b = .eq at h
  have hp : a.negative = b.negative ∧ a.integer = b.integer ∧ a.fraction = b.fraction := by
    unfold Decimal.compare at h
    cases ha : a.negative <;> cases hb : b.negative <;> simp only [ha, hb] at h
    · exact ⟨rfl, eq_of_compareMagnitude h⟩
    · cases h
    · cases h
    · have hm := eq_of_compareMagnitude h
      exact ⟨rfl, hm.1.symm, hm.2.symm⟩
  obtain ⟨hn, hi, hf⟩ := hp
  cases a
  cases b
  simp only at hn hi hf
  simp only [hn, hi, hf]

/-- A number is written by one decimal only. -/
theorem value_inj {a b : Decimal} : a.value = b.value ↔ a = b :=
  ⟨fun h => eq_of_compare ((compares_value a b).eq_eq.mpr h), congrArg value⟩

/-- Comparing decimals is comparing numbers. -/
theorem compare_eq_cmp_value (a b : Decimal) : compare a b = cmp a.value b.value :=
  (compares_value a b).cmp_eq.symm

instance : Std.TransOrd Decimal where
  eq_swap := by
    intro a b
    rw [compare_eq_cmp_value, compare_eq_cmp_value, cmp_swap]
  isLE_trans := by
    intro a b c hab hbc
    rw [Ordering.isLE_iff_ne_gt, ← Ne, compare_ne_gt_iff] at hab hbc ⊢
    exact hab.trans hbc

instance : Std.LawfulEqOrd Decimal where
  compare_self := by
    intro a
    exact (compares_value a a).eq_eq.mpr rfl
  eq_of_compare := eq_of_compare

end WikiAxioms.Decimal
