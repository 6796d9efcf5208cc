import WikiAxioms.Proofs.Catalog.Name
import WikiAxioms.Proofs.Catalog.Standard

/-!
# What a registry has been told

A registry is an empty one or the standard one after some calls of `register`. Which entry answers
for a name is settled by these calls alone: it is the entry of the last call under the same title,
whatever the name is spelled like here and there.
-/

namespace WikiAxioms.Catalog

open WikiAxioms.Markup

theorem getElem?_append_singleton_eq_some_iff {α : Type} {l : List α} {a b : α} {i : Nat} :
    (l ++ [a])[i]? = some b ↔ l[i]? = some b ∨ i = l.length ∧ a = b := by
  rcases Nat.lt_trichotomy i l.length with hi | rfl | hi
  · simp [List.getElem?_append_left hi, Nat.ne_of_lt hi]
  · simp
  · simp [List.getElem?_append_right (Nat.le_of_lt hi), Nat.ne_of_gt hi,
      List.getElem?_eq_none (Nat.le_of_lt hi), Nat.sub_ne_zero_of_lt hi]

/-- What an entry makes of a template on a property. -/
def Entry.construct (entry : Entry) (policy : Policy) (property : PropertyId)
    (template : Template) : Except BuildFault Constraint × List Warning :=
  match entry.build.runFrom ⟨property, template⟩ [] with
  | (.error fault, _) => (.error fault, [])
  | (.ok rule, asked) =>
    policy.apply ⟨property, template⟩ (unrecognized template asked) ⟨property, rule⟩

/-- The entry of call `i` is the last one that was registered under the title. -/
structure IsLatest (calls : List (Text × Entry)) (title : Text) (i : Nat) (entry : Entry) :
    Prop where
  call : ∃ name, calls[i]? = some (name, entry) ∧ normalizeName name = title
  last : ∀ j call, i < j → calls[j]? = some call → normalizeName call.1 ≠ title

section IsLatest

variable {calls : List (Text × Entry)} {title : Text} {i j : Nat} {entry other : Entry}

/-- A call belongs to one title. -/
theorem IsLatest.ne {title' : Text} (hi : IsLatest calls title i entry)
    (hj : IsLatest calls title' j other) (h : title ≠ title') : i ≠ j := by
  rintro rfl
  obtain ⟨name, hc, rfl⟩ := hi.call
  obtain ⟨name', hc', rfl⟩ := hj.call
  rw [hc] at hc'
  obtain ⟨rfl, -⟩ := Prod.mk.inj (Option.some.inj hc')
  exact h rfl

/-- After a call under the title, it is the last one. -/
theorem isLatest_append_of_eq {name : Text} (h : normalizeName name = title) :
    IsLatest (calls ++ [(name, other)]) title i entry ↔ i = calls.length ∧ entry = other := by
  constructor
  · intro hl
    obtain ⟨n, hc, -⟩ := hl.call
    rcases getElem?_append_singleton_eq_some_iff.mp hc with hc | ⟨rfl, he⟩
    · have hi : i < calls.length := (List.getElem?_eq_some_iff.mp hc).1
      exact absurd h (hl.last _ _ hi List.getElem?_concat_length)
    · exact ⟨rfl, (Prod.mk.inj he).2.symm⟩
  · rintro ⟨rfl, rfl⟩
    refine ⟨⟨name, List.getElem?_concat_length, h⟩, fun j call hj hc => ?_⟩
    rcases getElem?_append_singleton_eq_some_iff.mp hc with hc | ⟨rfl, -⟩
    · exact absurd (List.getElem?_eq_some_iff.mp hc).1 (Nat.lt_asymm hj)
    · exact absurd hj (Nat.lt_irrefl _)

/-- A call under another title changes nothing. -/
theorem isLatest_append_of_ne {name : Text} (h : normalizeName name ≠ title) :
    IsLatest (calls ++ [(name, other)]) title i entry ↔ IsLatest calls title i entry := by
  constructor
  · intro hl
    obtain ⟨n, hc, hn⟩ := hl.call
    rcases getElem?_append_singleton_eq_some_iff.mp hc with hc | ⟨-, he⟩
    · refine ⟨⟨n, hc, hn⟩, fun j call hj hc => hl.last j call hj ?_⟩
      exact getElem?_append_singleton_eq_some_iff.mpr (.inl hc)
    · exact absurd ((Prod.mk.inj he).1 ▸ hn) h
  · intro hl
    obtain ⟨n, hc, hn⟩ := hl.call
    refine ⟨⟨n, getElem?_append_singleton_eq_some_iff.mpr (.inl hc), hn⟩, fun j call hj hc => ?_⟩
    rcases getElem?_append_singleton_eq_some_iff.mp hc with hc | ⟨-, rfl⟩
    · exact hl.last j call hj hc
    · exact h

end IsLatest

namespace Registry

/-- What a registry says of a name: nothing is known of it, or an entry decides. -/
def Answers (r : Registry) (name : Text) : Option Entry → Prop
  | none => r.contains name = false ∧ r.acceptedShape name = none ∧
      ∀ property template, template.name = name →
        r.build property template = (.error (.unknownKind name), [])
  | some entry => r.contains name = true ∧
      r.acceptedShape name = (Template.ofText entry.sample).toOption ∧
      ∀ property template, template.name = name →
        r.build property template = entry.construct r.policy property template

theorem answers_find? (r : Registry) (name : Text) : r.Answers name (r.find? name) := by
  cases h : r.find? name with
  | none =>
    refine ⟨by rw [contains, h]; rfl, by rw [acceptedShape, h]; rfl, ?_⟩
    rintro property template rfl
    rw [build, h]
  | some entry =>
    refine ⟨by rw [contains, h]; rfl, by rw [acceptedShape, h]; rfl, ?_⟩
    rintro property template rfl
    rw [build, h]
    rfl

/-- The registries that register calls lead to, with all calls in the order of time. The standard
registry has been told of the standard kinds. -/
inductive IsReached (check : PatternCheck) : List (Text × Entry) → Registry → Prop
  | empty (policy : Policy) : IsReached check [] (.empty policy)
  | standard (policy : Policy) :
      IsReached check (Kind.all.map fun kind => (kind.templateName, standardEntry check kind))
        (.standard check policy)
  | register {calls : List (Text × Entry)} {r : Registry} (name : Text) (entry : Entry) :
      IsReached check calls r →
        IsReached check (calls ++ [(name, entry)]) (r.register name entry).2

theorem find?_register (r : Registry) (name other : Text) (entry : Entry) :
    (r.register name entry).2.find? other =
      if normalizeName other = normalizeName name then some entry else r.find? other := by
  rw [register_eq]
  exact lookup_setEntry (normalizeName name) entry (normalizeName other) r.entries

theorem find?_empty (policy : Policy) (name : Text) : (empty policy).find? name = none := rfl

variable {check : PatternCheck} {calls : List (Text × Entry)} {r : Registry}

/-- What holds of the empty registry and is kept by every call holds of all that are reached; the
standard registry is itself made by calls. -/
theorem IsReached.induction_on {P : List (Text × Entry) → Registry → Prop}
    (h : IsReached check calls r) (hempty : ∀ policy, P [] (.empty policy))
    (hregister : ∀ calls r name entry, P calls r →
      P (calls ++ [(name, entry)]) (r.register name entry).2) : P calls r := by
  have hfold (kinds : List Kind) (calls : List (Text × Entry)) (r : Registry) (hp : P calls r) :
      P (calls ++ kinds.map fun kind => (kind.templateName, standardEntry check kind))
        (kinds.foldl (fun r kind => (r.register kind.templateName (standardEntry check kind)).2)
          r) := by
    induction kinds generalizing calls r with
    | nil => simpa using hp
    | cons kind kinds ih =>
      have hk := ih _ _ (hregister calls r kind.templateName (standardEntry check kind) hp)
      rwa [List.append_assoc] at hk
  induction h with
  | empty policy => exact hempty policy
  | standard policy => exact hfold Kind.all [] (.empty policy) (hempty policy)
  | register name entry _ ih => exact hregister _ _ name entry ih

/-- The last call under the title of a name decides what is found under the name. -/
theorem IsReached.find?_eq_some_iff (h : IsReached check calls r) {name : Text} {entry : Entry} :
    r.find? name = some entry ↔ ∃ i, IsLatest calls (normalizeName name) i entry := by
  refine h.induction_on (P := fun calls r => r.find? name = some entry ↔
    ∃ i, IsLatest calls (normalizeName name) i entry) ?_ ?_
  · intro policy
    have hnone : ∀ i, ¬ IsLatest [] (normalizeName name) i entry := by
      rintro i ⟨⟨n, hc, -⟩, -⟩
      simp at hc
    simp [find?_empty, hnone]
  · intro calls r n other ih
    rw [find?_register]
    -- a call under the title is the last one from now on, any other leaves what was found
    by_cases hn : normalizeName name = normalizeName n
    · rw [if_pos hn]
      simp [isLatest_append_of_eq hn.symm, eq_comm]
    · rw [if_neg hn, ih]
      simp [isLatest_append_of_ne (Ne.symm hn)]

/-- Where nothing is found, no call went under the title of the name. -/
theorem IsReached.find?_eq_none_iff (h : IsReached check calls r) {name : Text} :
    r.find? name = none ↔ ∀ call ∈ calls, normalizeName call.1 ≠ normalizeName name := by
  refine h.induction_on (P := fun calls r => r.find? name = none ↔
    ∀ call ∈ calls, normalizeName call.1 ≠ normalizeName name) ?_ ?_
  · intro policy
    simp [find?_empty]
  · intro calls r n other ih
    rw [find?_register]
    by_cases hn : normalizeName name = normalizeName n
    · rw [if_pos hn]
      refine ⟨nofun, fun hall => ?_⟩
      exact absurd hn.symm (hall (n, other) (List.mem_append_right _ (by simp)))
    · rw [if_neg hn, ih]
      simp [or_imp, forall_and, Ne.symm hn]

/-- All spellings of some words are answered by the entry of the last call under their title, and a
spelling of words with another title is answered by another call. -/
theorem IsReached.answers_of_isNameOf (h : IsReached check calls r) {ws : List Text} {name : Text}
    (hn : IsNameOf ws name) (hm : hasConstraintMark (phrase ws) = false) :
    normalizeName name = title ws ∧
      ((∃ i entry, IsLatest calls (title ws) i entry ∧ r.Answers name (some entry) ∧
          ∀ vs other, IsNameOf vs other → hasConstraintMark (phrase vs) = false →
            title vs ≠ title ws → ∀ j entry', IsLatest calls (title vs) j entry' →
              r.Answers other (some entry') ∧ j ≠ i) ∨
        (∀ call ∈ calls, normalizeName call.1 ≠ title ws) ∧ r.Answers name none) := by
  have ht := normalizeName_of_isNameOf hn hm
  have hanswers := r.answers_find? name
  refine ⟨ht, ?_⟩
  cases hf : r.find? name with
  | none =>
    rw [hf] at hanswers
    exact .inr ⟨ht ▸ h.find?_eq_none_iff.mp hf, hanswers⟩
  | some entry =>
    rw [hf] at hanswers
    obtain ⟨i, hi⟩ := h.find?_eq_some_iff.mp hf
    rw [ht] at hi
    refine .inl ⟨i, entry, hi, hanswers, fun vs other hv hu hne j entry' hj => ?_⟩
    have hf' : r.find? other = some entry' :=
      h.find?_eq_some_iff.mpr ⟨j, by rwa [normalizeName_of_isNameOf hv hu]⟩
    exact ⟨hf' ▸ r.answers_find? other, hj.ne hi hne⟩

theorem answers_of_isNameOf_respelled :
    let first : Entry := ⟨"\x7b\x7bConstraint:Symmetric\x7d\x7d", return .symmetric⟩
    let second : Entry := ⟨"\x7b\x7bConstraint:Unique value\x7d\x7d", return .uniqueValue⟩
    let r := ((empty .ignore).register "straße_nr" first).2
    let r := (r.register "Constraint: Straße  nr" second).2
    normalizeName " CONSTRAINT:_straße nr_" = title ["straße", "nr"] ∧
      r.Answers " CONSTRAINT:_straße nr_" (some second) := by
  intro first second _ r
  have hr : IsReached (fun _ => .ok ()) _ r :=
    .register _ _ (.register _ _ (.empty .ignore))
  have hn : IsNameOf ["straße", "nr"] " CONSTRAINT:_straße nr_" :=
    @IsNameOf.marked _ " " "CONSTRAINT:" "_straße nr_" (List.forall_mem_singleton.mpr rfl)
      (by decide) (Text.areRuns_iff.mpr (by decide))
  have hlatest : normalizeName "Constraint: Straße  nr" = title ["straße", "nr"] := by
    decide +kernel
  obtain ⟨ht, ⟨i, entry, hi, ha, -⟩ | ⟨hnone, -⟩⟩ := hr.answers_of_isNameOf hn (by decide)
  · obtain ⟨-, rfl⟩ := (isLatest_append_of_eq hlatest).mp hi
    exact ⟨ht, ha⟩
  · exact absurd hlatest (hnone ("Constraint: Straße  nr", second) (by simp))

end Registry

end WikiAxioms.Catalog
