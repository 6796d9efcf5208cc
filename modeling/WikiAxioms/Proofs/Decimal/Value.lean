import Mathlib.Algebra.Order.Field.Rat
import Mathlib.Order.Compare
import Mathlib.Tactic.FieldSimp
import Mathlib.Tactic.Linarith
import Mathlib.Tactic.NormNum
import Mathlib.Tactic.Positivity
import Mathlib.Tactic.Ring
import WikiAxioms.Decimal

/-!
# The numbers that decimals write

A decimal stands for a rational number, which its digits give by position. Comparing decimals digit
by digit compares those numbers, whatever the number of digits before or after the point.
-/

namespace WikiAxioms.Decimal

def digitValue (c : Char) : Nat := c.toNat - '0'.toNat

/-- The natural number that digits write. -/
def wholeValue : Text → Nat
  | [] => 0
  | c :: t => digitValue c * 10 ^ t.length + wholeValue t

/-- The number that digits after the point write. -/
def fractionValue (t : Text) : ℚ := wholeValue t / 10 ^ t.length

def magnitude (d : Decimal) : ℚ := wholeValue d.integer + fractionValue d.fraction

/-- The number that a decimal writes. -/
def value (d : Decimal) : ℚ := if d.negative then -d.magnitude else d.magnitude

theorem isDigit_iff (c : Char) : c.isDigit = true ↔ 48 ≤ c.toNat ∧ c.toNat ≤ 57 := by
  have h0 : ('0' : Char).val.toNat = 48 := rfl
  have h9 : ('9' : Char).val.toNat = 57 := rfl
  simp only [Char.isDigit, ge_iff_le, Bool.and_eq_true, decide_eq_true_eq, Char.toNat,
    UInt32.le_iff_toNat_le, h0, h9]

theorem digitValue_le {c : Char} (h : c.isDigit = true) : digitValue c ≤ 9 := by
  have hc := (isDigit_iff c).mp h
  have h0 : ('0' : Char).toNat = 48 := rfl
  rw [digitValue, h0]
  omega

theorem wholeValue_lt {t : Text} (h : t.all Char.isDigit = true) :
    wholeValue t < 10 ^ t.length := by
  induction t with
  | nil => simp [wholeValue]
  | cons c t ih =>
    rw [List.all_cons, Bool.and_eq_true] at h
    have hc := digitValue_le h.1
    have ht := ih h.2
    have hm : digitValue c * 10 ^ t.length ≤ 9 * 10 ^ t.length := Nat.mul_le_mul_right _ hc
    rw [wholeValue, List.length_cons, Nat.pow_succ]
    omega

theorem fractionValue_nonneg (t : Text) : 0 ≤ fractionValue t := by
  unfold fractionValue
  positivity

theorem fractionValue_lt_one {t : Text} (h : t.all Char.isDigit = true) : fractionValue t < 1 := by
  rw [fractionValue, div_lt_one (by positivity)]
  exact_mod_cast wholeValue_lt h

@[simp] theorem fractionValue_nil : fractionValue [] = 0 := by simp [fractionValue, wholeValue]

theorem fractionValue_cons (c : Char) (t : Text) :
    fractionValue (c :: t) = (digitValue c + fractionValue t) / 10 := by
  simp only [fractionValue, wholeValue, List.length_cons]
  push_cast
  field_simp
  ring

/-! ## Comparing digit by digit -/

theorem digitValue_lt_of_compare {c d : Char} (hc : c.isDigit = true) (h : compare c d = .lt) :
    digitValue c < digitValue d := by
  have hl : c < d := compareOfLessAndEq_eq_lt.mp h
  have hl : c.toNat < d.toNat := UInt32.lt_iff_toNat_lt.mp hl
  have hc := (isDigit_iff c).mp hc
  have h0 : ('0' : Char).toNat = 48 := rfl
  rw [digitValue, digitValue, h0]
  omega

theorem compares_char {c d : Char} (hc : c.isDigit = true) (hd : d.isDigit = true) :
    (compare c d).Compares (digitValue c) (digitValue d) := by
  cases h : compare c d with
  | lt => exact digitValue_lt_of_compare hc h
  | eq => rw [Std.LawfulEqOrd.eq_of_compare h]; rfl
  | gt =>
    have h : compare d c = .lt := Std.OrientedCmp.gt_iff_lt.mp h
    exact digitValue_lt_of_compare hd h

/-- Numbers compare as their whole parts do, and where those are equal as the rest does. -/
theorem compares_then {o₁ o₂ : Ordering} {m n : Nat} {x y : ℚ} (hx : 0 ≤ x ∧ x < 1)
    (hy : 0 ≤ y ∧ y < 1) (h₁ : o₁.Compares m n) (h₂ : o₂.Compares x y) :
    (o₁.then o₂).Compares (m + x) (n + y) := by
  cases o₁ with
  | lt =>
    have h : (m : ℚ) + 1 ≤ n := by exact_mod_cast Nat.succ_le_of_lt h₁
    change (m : ℚ) + x < n + y
    linarith
  | eq =>
    obtain rfl : m = n := h₁
    cases o₂ with
    | lt => exact add_lt_add_right h₂ _
    | eq => exact congrArg _ h₂
    | gt => exact add_lt_add_right h₂ _
  | gt =>
    have h : (n : ℚ) + 1 ≤ m := by exact_mod_cast Nat.succ_le_of_lt h₁
    change (n : ℚ) + y < m + x
    linarith

theorem compares_div {o : Ordering} {x y z : ℚ} (hz : 0 < z) (h : o.Compares x y) :
    o.Compares (x / z) (y / z) := by
  cases o with
  | lt => exact div_lt_div_of_pos_right h hz
  | eq => exact congrArg (· / z) h
  | gt => exact div_lt_div_of_pos_right h hz

/-- A missing digit compares as a zero does. -/
theorem compares_fractions {r s : Text} (hr : r.all Char.isDigit = true)
    (hs : s.all Char.isDigit = true) :
    (compareFractions r s).Compares (fractionValue r) (fractionValue s) := by
  have bounds : ∀ t : Text, t.all Char.isDigit = true → 0 ≤ fractionValue t ∧ fractionValue t < 1 :=
    fun t ht => ⟨fractionValue_nonneg t, fractionValue_lt_one ht⟩
  fun_induction compareFractions r s with
  | case1 => rfl
  | case2 d s ih =>
    rw [List.all_cons, Bool.and_eq_true] at hs
    have h := compares_then (bounds [] rfl) (bounds s hs.2) (compares_char (c := '0') rfl hs.1)
      (ih rfl hs.2)
    simpa [fractionValue_cons, digitValue] using compares_div (z := 10) (by norm_num) h
  | case3 c r ih =>
    rw [List.all_cons, Bool.and_eq_true] at hr
    have h := compares_then (bounds r hr.2) (bounds [] rfl) (compares_char (d := '0') hr.1 rfl)
      (ih hr.2 rfl)
    simpa [fractionValue_cons, digitValue] using compares_div (z := 10) (by norm_num) h
  | case4 c r d s ih =>
    rw [List.all_cons, Bool.and_eq_true] at hr hs
    have h := compares_then (bounds r hr.2) (bounds s hs.2) (compares_char hr.1 hs.1)
      (ih hr.2 hs.2)
    simpa [fractionValue_cons] using compares_div (z := 10) (by norm_num) h

/-- Digit strings of one length compare as fractions do. -/
theorem compare_eq_compareFractions {r s : Text} (h : r.length = s.length) :
    compare r s = compareFractions r s := by
  rw [List.compare_eq_compareLex]
  induction r generalizing s with
  | nil =>
    cases s with
    | nil => rw [List.compareLex_nil_nil, compareFractions]
    | cons d s => simp at h
  | cons c r ih =>
    cases s with
    | nil => simp at h
    | cons d s =>
      rw [List.length_cons, List.length_cons, Nat.add_right_cancel_iff] at h
      rw [List.compareLex_cons_cons, compareFractions, ih h]

theorem compares_wholes {r s : Text} (hr : r.all Char.isDigit = true)
    (hs : s.all Char.isDigit = true) (h : r.length = s.length) :
    (compare r s).Compares (wholeValue r) (wholeValue s) := by
  have hc := compares_fractions hr hs
  rw [← compare_eq_compareFractions h] at hc
  have hp : (0 : ℚ) < 10 ^ s.length := by positivity
  cases ho : compare r s with
  | lt =>
    rw [ho, Ordering.compares_lt, fractionValue, fractionValue, h,
      div_lt_div_iff_of_pos_right hp] at hc
    exact_mod_cast hc
  | eq =>
    rw [ho, Ordering.compares_eq, fractionValue, fractionValue, h,
      div_left_inj' hp.ne'] at hc
    exact_mod_cast hc
  | gt =>
    rw [ho, Ordering.compares_gt, gt_iff_lt, fractionValue, fractionValue, h,
      div_lt_div_iff_of_pos_right hp] at hc
    exact_mod_cast hc

/-- Digits without needless zeros write a number of their length. -/
theorem le_wholeValue {t : Text} (h : isWhole t = true) (hl : 2 ≤ t.length) :
    10 ^ (t.length - 1) ≤ wholeValue t := by
  cases t with
  | nil => simp at hl
  | cons c t =>
    rw [isWhole, Bool.or_eq_true, beq_iff_eq] at h
    rcases h with h | h
    · rw [h] at hl
      simp at hl
    · simp only [isNumeral, List.all_cons, Bool.and_eq_true, bne_iff_ne] at h
      have hc : 1 ≤ digitValue c := by
        have hd := (isDigit_iff c).mp h.2.1
        have hne : c.toNat ≠ 48 := fun he => h.1 (Char.toNat_inj.mp he)
        have h0 : ('0' : Char).toNat = 48 := rfl
        rw [digitValue, h0]
        omega
      rw [wholeValue, List.length_cons, Nat.add_sub_cancel]
      nlinarith [Nat.pos_of_ne_zero (pow_ne_zero t.length (by norm_num : (10 : Nat) ≠ 0))]

theorem all_isDigit_of_isWhole {t : Text} (h : isWhole t = true) : t.all Char.isDigit = true := by
  rw [isWhole, Bool.or_eq_true, beq_iff_eq] at h
  rcases h with rfl | h
  · rfl
  · cases t with
    | nil => rfl
    | cons c t =>
      rw [isNumeral, Bool.and_eq_true] at h
      exact h.2

theorem length_pos_of_isWhole {t : Text} (h : isWhole t = true) : 0 < t.length := by
  cases t with
  | nil => simp [isWhole, isNumeral] at h
  | cons c t => simp

theorem wholeValue_lt_of_length_lt {r s : Text} (hr : isWhole r = true) (hs : isWhole s = true)
    (h : r.length < s.length) : wholeValue r < wholeValue s := by
  have hpos := length_pos_of_isWhole hr
  calc wholeValue r
      < 10 ^ r.length := wholeValue_lt (all_isDigit_of_isWhole hr)
    _ ≤ 10 ^ (s.length - 1) := Nat.pow_le_pow_right (by norm_num) (by omega)
    _ ≤ wholeValue s := le_wholeValue hs (by omega)

/-- The shorter of two whole numbers is the smaller one. -/
theorem compares_integers {r s : Text} (hr : isWhole r = true) (hs : isWhole s = true) :
    ((compare r.length s.length).then (compare r s)).Compares (wholeValue r) (wholeValue s) := by
  rcases Nat.lt_trichotomy r.length s.length with h | h | h
  · rw [Nat.compare_eq_lt.mpr h]
    exact wholeValue_lt_of_length_lt hr hs h
  · rw [Nat.compare_eq_eq.mpr h]
    exact compares_wholes (all_isDigit_of_isWhole hr) (all_isDigit_of_isWhole hs) h
  · rw [Nat.compare_eq_gt.mpr h]
    exact wholeValue_lt_of_length_lt hs hr h

theorem compares_magnitude (a b : Decimal) :
    (compareMagnitude a b).Compares a.magnitude b.magnitude := by
  have h := compares_then ⟨fractionValue_nonneg a.fraction, fractionValue_lt_one a.digits⟩
    ⟨fractionValue_nonneg b.fraction, fractionValue_lt_one b.digits⟩
    (compares_integers a.whole b.whole) (compares_fractions a.digits b.digits)
  rwa [Ordering.then_assoc] at h

theorem magnitude_nonneg (d : Decimal) : 0 ≤ d.magnitude :=
  add_nonneg (Nat.cast_nonneg _) (fractionValue_nonneg _)

/-! ## Signs -/

theorem eq_zero_of_wholeValue_eq_zero {t : Text} (h : t.all Char.isDigit = true)
    (hz : wholeValue t = 0) : ∀ c ∈ t, c = '0' := by
  induction t with
  | nil => simp
  | cons c t ih =>
    rw [List.all_cons, Bool.and_eq_true] at h
    have hp : 0 < 10 ^ t.length := by positivity
    rw [wholeValue, Nat.add_eq_zero_iff, Nat.mul_eq_zero] at hz
    have hc : c = '0' := by
      have hd := (isDigit_iff c).mp h.1
      have h0 : ('0' : Char).toNat = 48 := rfl
      have hv : digitValue c = 0 := by omega
      rw [digitValue, h0] at hv
      exact Char.toNat_inj.mp (by omega)
    exact List.forall_mem_cons.mpr ⟨hc, ih h.2 hz.2⟩

/-- A fraction that is zero and does not end in a zero has no digits. -/
theorem eq_nil_of_fractionValue_eq_zero {t : Text} (h : t.all Char.isDigit = true)
    (ht : t.getLast? ≠ some '0') (hz : fractionValue t = 0) : t = [] := by
  have hp : (10 : ℚ) ^ t.length ≠ 0 := by positivity
  rw [fractionValue, div_eq_zero_iff, or_iff_left hp, Nat.cast_eq_zero] at hz
  cases hl : t.getLast? with
  | none => exact List.getLast?_eq_none_iff.mp hl
  | some c =>
    have hc := eq_zero_of_wholeValue_eq_zero h hz c (List.mem_of_getLast? hl)
    exact absurd (hc ▸ hl) ht

/-- A decimal with a sign is not zero. -/
theorem magnitude_pos_of_negative {d : Decimal} (h : d.negative = true) : 0 < d.magnitude := by
  have hf := fractionValue_nonneg d.fraction
  have hi : (0 : ℚ) ≤ wholeValue d.integer := Nat.cast_nonneg _
  by_contra hm
  rw [magnitude, not_lt] at hm
  have hi : wholeValue d.integer = 0 := by exact_mod_cast le_antisymm (by linarith) hi
  have hf : fractionValue d.fraction = 0 := le_antisymm (by linarith) hf
  refine d.signed h ⟨?_, ?_⟩
  · have hw := d.whole
    have hz := eq_zero_of_wholeValue_eq_zero (all_isDigit_of_isWhole hw) hi
    rw [isWhole, Bool.or_eq_true, beq_iff_eq] at hw
    refine hw.resolve_right fun hn => ?_
    cases ht : d.integer with
    | nil => simp [ht, isNumeral] at hn
    | cons c t =>
      rw [ht, isNumeral, Bool.and_eq_true, bne_iff_ne] at hn
      exact hn.1 (hz c (by simp [ht]))
  · exact eq_nil_of_fractionValue_eq_zero d.digits d.tight hf

/-- Decimals compare as the numbers that they write. -/
theorem compares_value (a b : Decimal) : (compare a b).Compares a.value b.value := by
  change (Decimal.compare a b).Compares a.value b.value
  unfold Decimal.compare value
  cases ha : a.negative <;> cases hb : b.negative
  · exact compares_magnitude a b
  · have hp := magnitude_pos_of_negative hb
    have hn := magnitude_nonneg a
    change -b.magnitude < a.magnitude
    linarith
  · have hp := magnitude_pos_of_negative ha
    have hn := magnitude_nonneg b
    change -a.magnitude < b.magnitude
    linarith
  · have h := compares_magnitude b a
    dsimp only
    cases ho : compareMagnitude b a with
    | lt => rw [ho] at h; exact neg_lt_neg h
    | eq => rw [ho] at h; exact congrArg Neg.neg h.symm
    | gt => rw [ho] at h; exact neg_lt_neg h

theorem compare_ne_gt_iff (a b : Decimal) : compare a b ≠ .gt ↔ a.value ≤ b.value :=
  (compares_value a b).ne_gt

end WikiAxioms.Decimal
