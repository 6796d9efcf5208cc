import Mathlib.Data.List.Perm.Subperm
import WikiAxioms.Markup.Template
import WikiAxioms.Proofs.Entries

/-!
# When templates are equal

Two templates are equal when they have the same name, the same positional arguments and, in whatever
order, the same named ones. What can be asked of a template by key is then the same, and for named
arguments nothing more is needed.
-/

namespace WikiAxioms.Markup

namespace NamedArguments

variable {a b : NamedArguments} {key value : Text}

theorem get?_eq_some_iff_mem : a.get? key = some value ↔ (key, value) ∈ a.entries :=
  lookup_eq_some_iff_mem a.nodup

/-- An argument that is set is found, and no other is lost. -/
theorem get?_insert (a : NamedArguments) (key value key' : Text) :
    (a.insert key value).get? key' = if key' = key then some value else a.get? key' :=
  lookup_setEntry key value key' a.entries

theorem nodup_entries (a : NamedArguments) : a.entries.Nodup :=
  List.Pairwise.of_map _ (fun _ _ hne he => hne (congrArg _ he)) a.nodup

/-- Arguments are the same up to their order when every key has the same value. -/
theorem perm_iff_get? : a.entries.Perm b.entries ↔ ∀ key, a.get? key = b.get? key := by
  constructor
  · intro h key
    refine Option.ext fun value => ?_
    rw [get?_eq_some_iff_mem, get?_eq_some_iff_mem, h.mem_iff]
  · intro h
    rw [List.perm_ext_iff_of_nodup a.nodup_entries b.nodup_entries]
    rintro ⟨key, value⟩
    rw [← get?_eq_some_iff_mem, ← get?_eq_some_iff_mem, h]

/-- Collections are equivalent when they hold the same arguments, in whatever order. -/
theorem beq_iff_perm : (a == b) = true ↔ a.entries.Perm b.entries := by
  have h : (a == b) = true ↔ a.entries.length = b.entries.length ∧ a.entries ⊆ b.entries := by
    have he : (a == b) = (a.size == b.size && a.entries.all fun e => b.get? e.1 == some e.2) :=
      rfl
    rw [he, Bool.and_eq_true, beq_iff_eq, List.all_eq_true]
    simp only [beq_iff_eq, get?_eq_some_iff_mem]
    rfl
  rw [h]
  constructor
  · rintro ⟨hl, hs⟩
    exact (List.subperm_of_subset a.nodup_entries hs).perm_of_length_le (Nat.le_of_eq hl.symm)
  · exact fun h => ⟨h.length_eq, h.subset⟩

end NamedArguments

namespace Template

/-- The same template but for the order of named arguments. -/
structure Agrees (t u : Template) : Prop where
  name : t.name = u.name
  positional : t.positional = u.positional
  named : t.named.entries.Perm u.named.entries

theorem beq_iff_agrees {t u : Template} : (t == u) = true ↔ t.Agrees u := by
  have h : (t == u) =
      (t.name == u.name && t.positional == u.positional && t.named == u.named) := rfl
  rw [h, Bool.and_eq_true, Bool.and_eq_true, beq_iff_eq, beq_iff_eq,
    NamedArguments.beq_iff_perm]
  exact ⟨fun ⟨⟨hn, hp⟩, he⟩ => ⟨hn, hp, he⟩, fun ⟨hn, hp, he⟩ => ⟨⟨hn, hp⟩, he⟩⟩

theorem Agrees.get? {t u : Template} (h : t.Agrees u) (key : Text) : t.get? key = u.get? key :=
  NamedArguments.perm_iff_get?.mp h.named key

end Template

end WikiAxioms.Markup
