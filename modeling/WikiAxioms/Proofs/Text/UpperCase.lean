import Mathlib.Data.Nat.Bitwise
import WikiAxioms.Text.UpperCase

/-!
# Upper case twice

What upper case begins with has no upper case but itself, and upper case is made of no white space.
Both are questions about two tables, in which a thousand code points and more are meant. Sets of
code points are kept as the bits of a number, which makes the tables quick to check.
-/

namespace WikiAxioms

/-- Code points as the bits of a number. -/
def bitsOf (points : List Nat) : Nat := points.foldr (fun n bits => 2 ^ n ||| bits) 0

theorem testBit_bitsOf (points : List Nat) (n : Nat) :
    (bitsOf points).testBit n = decide (n ∈ points) := by
  induction points with
  | nil => simp [bitsOf]
  | cons m points ih =>
    rw [bitsOf, List.foldr_cons, ← bitsOf, Nat.testBit_or, ih, Nat.testBit_two_pow]
    simp [eq_comm]

theorem not_mem_of_land_eq_zero {ms ns : List Nat} (h : bitsOf ms &&& bitsOf ns = 0) {n : Nat}
    (hn : n ∈ ns) : n ∉ ms := by
  intro hm
  have hbit := congrArg (Nat.testBit · n) h
  simp [testBit_bitsOf, hm, hn] at hbit

/-- The code points of a stretch. -/
def stretchPoints (stretch : Nat × Nat × Nat × Int) : List Nat :=
  let (first, last, step, _) := stretch
  List.range' first ((last - first) / step + 1) step

/-- The upper case of the code points of a stretch. -/
def stretchImages (stretch : Nat × Nat × Nat × Int) : List Nat :=
  (stretchPoints stretch).map fun (n : Nat) => (n + stretch.2.2.2).toNat

/-- All code points that have an upper case besides themselves. -/
def lowerPoints : List Nat :=
  upperExpansions.map Prod.fst ++ upperStretches.flatMap stretchPoints

/-- All code points that an upper case begins with. -/
def leadingPoints : List Nat :=
  upperExpansions.flatMap (·.2.take 1) ++ upperStretches.flatMap stretchImages

/-- All code points that stand in an upper case. -/
def upperPoints : List Nat :=
  upperExpansions.flatMap Prod.snd ++ upperStretches.flatMap stretchImages

theorem land_lowerPoints_leadingPoints : bitsOf lowerPoints &&& bitsOf leadingPoints = 0 := by
  decide +kernel

/-- Every code point of an upper case is one of a character, which separates no words. -/
theorem upperPoints_all : (upperPoints.all fun n =>
    (Char.ofNat n).toNat == n && !isSpace (Char.ofNat n) && Char.ofNat n != '_') = true := by
  decide +kernel

theorem upperExpansions_ne_nil : (upperExpansions.all fun e => e.2 != []) = true := by
  decide +kernel

theorem mem_stretchPoints {first last step n : Nat} (distance : Int) (hf : first ≤ n)
    (hl : n ≤ last) (hs : (n - first) % step = 0) :
    n ∈ stretchPoints (first, last, step, distance) := by
  have hd := Nat.mod_add_div (n - first) step
  have hle : (n - first) / step ≤ (last - first) / step := Nat.div_le_div_right (by omega)
  exact List.mem_range'.mpr ⟨(n - first) / step, by omega, by omega⟩

theorem leadingPoints_subset {n : Nat} (h : n ∈ leadingPoints) : n ∈ upperPoints := by
  rw [leadingPoints, List.mem_append, List.mem_flatMap] at h
  rw [upperPoints, List.mem_append, List.mem_flatMap]
  exact h.imp_left fun ⟨e, he, hn⟩ => ⟨e, he, List.mem_of_mem_take hn⟩

/-- Upper case is the character itself or comes out of the tables. -/
theorem upperCase_cases (c : Char) :
    upperCase c = [c] ∨ c.toNat ∈ lowerPoints ∧ ∃ (n : Nat) (points : List Nat),
      upperCase c = Char.ofNat n :: points.map Char.ofNat ∧ n ∈ leadingPoints ∧
        ∀ m ∈ points, m ∈ upperPoints := by
  rw [upperCase]
  cases he : upperExpansions.lookup c.toNat with
  | some points =>
    obtain ⟨front, back, hl, -⟩ := List.lookup_eq_some_iff.mp he
    have hmem : (c.toNat, points) ∈ upperExpansions := by simp [hl]
    have hn := List.all_eq_true.mp upperExpansions_ne_nil _ hmem
    cases points with
    | nil => simp at hn
    | cons n points =>
      refine .inr ⟨?_, n, points, rfl, ?_, fun m hm => ?_⟩
      · exact List.mem_append_left _ (List.mem_map.mpr ⟨_, hmem, rfl⟩)
      · exact List.mem_append_left _ (List.mem_flatMap.mpr ⟨_, hmem, by simp⟩)
      · exact List.mem_append_left _ (List.mem_flatMap.mpr ⟨_, hmem, List.mem_cons_of_mem n hm⟩)
  | none =>
    cases hs : upperStretches.find? fun (first, last, step, _) =>
        first ≤ c.toNat && c.toNat ≤ last && (c.toNat - first) % step == 0 with
    | none => exact .inl rfl
    | some stretch =>
      obtain ⟨first, last, step, distance⟩ := stretch
      have hmem := List.mem_of_find?_eq_some hs
      have hcovers := List.find?_some hs
      simp only [Bool.and_eq_true, decide_eq_true_eq, beq_iff_eq] at hcovers
      have hc := mem_stretchPoints distance hcovers.1.1 hcovers.1.2 hcovers.2
      refine .inr ⟨?_, (c.toNat + distance).toNat, [], rfl, ?_, by simp⟩
      · exact List.mem_append_right _ (List.mem_flatMap.mpr ⟨_, hmem, hc⟩)
      · refine List.mem_append_right _ (List.mem_flatMap.mpr ⟨_, hmem, ?_⟩)
        exact List.mem_map.mpr ⟨c.toNat, hc, rfl⟩

theorem toNat_of_mem_upperPoints {n : Nat} (h : n ∈ upperPoints) : (Char.ofNat n).toNat = n ∧
    isSpace (Char.ofNat n) = false ∧ Char.ofNat n ≠ '_' := by
  have hn := List.all_eq_true.mp upperPoints_all n h
  simpa [and_assoc] using hn

theorem upperCase_ne_nil (c : Char) : upperCase c ≠ [] := by
  rcases upperCase_cases c with h | ⟨-, n, points, h, -⟩ <;> simp [h]

/-- No upper case is white space or an underscore but that of white space and of an underscore. -/
theorem eq_or_of_mem_upperCase {c d : Char} (h : d ∈ upperCase c) :
    d = c ∨ isSpace d = false ∧ d ≠ '_' := by
  rcases upperCase_cases c with hc | ⟨-, n, points, hc, hn, hp⟩
  · rw [hc, List.mem_singleton] at h
    exact .inl h
  · have hall : ∀ m ∈ n :: points, m ∈ upperPoints :=
      List.forall_mem_cons.mpr ⟨leadingPoints_subset hn, hp⟩
    rw [hc, ← List.map_cons, List.mem_map] at h
    obtain ⟨m, hm, rfl⟩ := h
    exact .inr (toNat_of_mem_upperPoints (hall m hm)).2

/-- What an upper case begins with is its own upper case. -/
theorem upperCase_of_head?_upperCase {c d : Char} (h : (upperCase c).head? = some d) :
    upperCase d = [d] := by
  rcases upperCase_cases c with hc | ⟨-, n, points, hc, hn, -⟩
  · rw [hc] at h
    obtain rfl := Option.some.inj h
    exact hc
  · rw [hc] at h
    obtain rfl := Option.some.inj h
    have hlow : (Char.ofNat n).toNat ∉ lowerPoints := by
      rw [(toNat_of_mem_upperPoints (leadingPoints_subset hn)).1]
      exact not_mem_of_land_eq_zero land_lowerPoints_leadingPoints hn
    exact (upperCase_cases (Char.ofNat n)).resolve_right fun hd => hlow hd.1

end WikiAxioms
