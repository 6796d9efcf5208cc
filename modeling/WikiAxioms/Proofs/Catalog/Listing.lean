import WikiAxioms.Proofs.Catalog.History
import WikiAxioms.Proofs.Text.Utf8

/-!
# Looking up what is listed

A registry lists the titles it knows, in the order of their bytes. A listed title is in the form
that names are brought into for a lookup, but the lookup takes a mark of constraints off once more:
a title that bears the mark itself is only found behind another one.
-/

namespace WikiAxioms.Catalog.Registry

open WikiAxioms.Markup

variable {check : PatternCheck} {calls : List (Text × Entry)} {r : Registry}

/-- No title has two entries, and only titles of names have one. -/
theorem IsReached.keys (h : IsReached check calls r) : (r.entries.map Prod.fst).Nodup ∧
    ∀ key ∈ r.entries.map Prod.fst, ∃ name, normalizeName name = key := by
  refine h.induction_on (P := fun _ r => (r.entries.map Prod.fst).Nodup ∧
    ∀ key ∈ r.entries.map Prod.fst, ∃ name, normalizeName name = key) ?_ ?_
  · exact fun policy => ⟨List.nodup_nil, nofun⟩
  · rintro calls r name entry ⟨hn, ht⟩
    rw [register_eq, keys_setEntry]
    split
    · exact ⟨hn, ht⟩
    · next hk =>
      refine ⟨List.nodup_append.mpr ⟨hn, by simp, ?_⟩, ?_⟩
      · rintro a ha b hb rfl
        exact hk (List.mem_singleton.mp hb ▸ ha)
      · exact List.forall_mem_append.mpr ⟨ht, by simp⟩

theorem mem_names {name : Text} : name ∈ r.names ↔ name ∈ r.entries.map Prod.fst :=
  (List.mergeSort_perm _ _).mem_iff

theorem isLE_or_isLE (a b : Text) : ((compare a b).isLE || (compare b a).isLE) = true := by
  rw [Std.OrientedOrd.eq_swap (a := b)]
  cases compare a b <;> rfl

theorem lt_of_isLE_of_ne {a b : Text} (h : (compare a b).isLE = true) (hn : a ≠ b) :
    compare a b = .lt :=
  (Ordering.isLE_iff_eq_lt_or_eq_eq.mp h).resolve_right fun he =>
    hn (Std.LawfulEqOrd.eq_of_compare he)

/-- What is sorted and names nothing twice rises strictly, and so do its bytes. -/
theorem IsReached.pairwise_names (h : IsReached check calls r) :
    (r.names.map Text.utf8).Pairwise (· < ·) := by
  have hle : r.names.Pairwise fun a b => (compare a b).isLE = true :=
    @List.pairwise_mergeSort _ (fun a b => (compare a b).isLE)
      (fun _ _ _ => Std.TransOrd.isLE_trans) isLE_or_isLE _
  have hne : r.names.Nodup := (List.mergeSort_perm _ _).nodup_iff.mpr h.keys.1
  rw [List.pairwise_map]
  exact hle.imp₂ (fun a b hab hn => Text.utf8_lt_utf8 (lt_of_isLE_of_ne hab hn)) hne

theorem answers_of_lookup {name key : Text} {entry : Entry} (hk : normalizeName name = key)
    (hl : r.entries.lookup key = some entry) : r.Answers name (some entry) := by
  have hf : r.find? name = some entry := by rw [find?, hk, hl]
  exact hf ▸ r.answers_find? name

/-- What is listed rises strictly in bytes. A listed name that bears no mark of constraints is
answered by the entry that it has, and behind the mark every listed name is. -/
theorem IsReached.answers_names (h : IsReached check calls r) :
    (r.names.map Text.utf8).Pairwise (· < ·) ∧
      ∀ name ∈ r.names, ∃ entry, r.entries.lookup name = some entry ∧
        (hasConstraintMark name = false → r.Answers name (some entry)) ∧
        ∀ mark, Text.sameLetters mark constraintMark = true →
          r.Answers (mark ++ name) (some entry) := by
  refine ⟨h.pairwise_names, fun name hn => ?_⟩
  have hmem := mem_names.mp hn
  obtain ⟨⟨key, entry⟩, he, rfl⟩ := List.mem_map.mp hmem
  obtain ⟨written, rfl⟩ := h.keys.2 key hmem
  have hl := (lookup_eq_some_iff_mem h.keys.1).mpr he
  exact ⟨entry, hl, fun hm => answers_of_lookup (normalizeName_normalizeName hm) hl,
    fun mark hm => answers_of_lookup (normalizeName_mark_append hm written) hl⟩

theorem answers_names_respelled :
    let entry : Entry := ⟨"\x7b\x7bConstraint:Symmetric\x7d\x7d", return .symmetric⟩
    let r := ((empty .ignore).register "ﬂuss__nr" entry).2
    let r := (r.register "Constraint:Constraint:x" entry).2
    (r.names.map Text.utf8).Pairwise (· < ·) ∧
      (∃ entry, r.Answers "FLuss nr" (some entry)) ∧
      ∃ entry, r.Answers "constraint:Constraint:x" (some entry) := by
  intro entry _ r
  have hr : IsReached (fun _ => .ok ()) _ r :=
    .register _ _ (.register _ _ (.empty .ignore))
  obtain ⟨hsorted, hnames⟩ := hr.answers_names
  have hriver : "FLuss nr".toList ∈ r.names := mem_names.mpr (by decide +kernel)
  have hmarked : "Constraint:x".toList ∈ r.names := mem_names.mpr (by decide +kernel)
  obtain ⟨first, -, hfirst, -⟩ := hnames _ hriver
  obtain ⟨second, -, -, hsecond⟩ := hnames _ hmarked
  exact ⟨hsorted, ⟨first, hfirst (by decide)⟩, second, hsecond "constraint:" (by decide)⟩

/-- A listed name that bears the mark itself need not be found. -/
theorem not_forall_names_contains : ¬ ∀ (check : PatternCheck) (calls : List (Text × Entry))
    (r : Registry), IsReached check calls r → ∀ name ∈ r.names, r.contains name = true := by
  intro hall
  let entry : Entry := ⟨"\x7b\x7bConstraint:Symmetric\x7d\x7d", return .symmetric⟩
  let r := ((empty .ignore).register "Constraint:Constraint:x" entry).2
  have hr : IsReached (fun _ => .ok ()) _ r := .register _ _ (.empty .ignore)
  have hn : "Constraint:x".toList ∈ r.names := mem_names.mpr (by decide +kernel)
  have hc : r.contains "Constraint:x" = false := by decide +kernel
  exact Bool.false_ne_true (hc.symm.trans (hall _ _ r hr "Constraint:x" hn))

end WikiAxioms.Catalog.Registry
