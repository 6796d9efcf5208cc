import Mathlib.Data.List.Basic
import WikiAxioms.Entries

/-!
# What setting entries comes to

What is found under a key is what was set under it last. Where no key comes twice, looking up a key
finds its one entry.
-/

namespace WikiAxioms

variable {β : Type}

/-- Where no key comes twice, looking up a key finds the one entry of it. -/
theorem lookup_eq_some_iff_mem {es : List (Text × β)} (h : (es.map Prod.fst).Nodup)
    {key : Text} {value : β} : es.lookup key = some value ↔ (key, value) ∈ es := by
  induction es with
  | nil => simp
  | cons e es ih =>
    obtain ⟨key', value'⟩ := e
    rw [List.map_cons, List.nodup_cons] at h
    by_cases hk : key = key'
    · subst hk
      have hn : (key, value) ∉ es := fun hm => h.1 (List.mem_map.mpr ⟨_, hm, rfl⟩)
      simp [hn, eq_comm]
    · have hb : (key == key') = false := beq_false_of_ne hk
      simp [List.lookup_cons, hb, hk, ih h.2]

theorem lookup_cons_eq_ite (key key' : Text) (value : β) (es : List (Text × β)) :
    ((key, value) :: es).lookup key' = if key' = key then some value else es.lookup key' := by
  by_cases h : key' = key
  · simp [h]
  · rw [List.lookup_cons, beq_false_of_ne h, if_neg h]

theorem lookup_setEntry (key : Text) (value : β) (key' : Text) (es : List (Text × β)) :
    (setEntry key value es).lookup key' = if key' = key then some value else es.lookup key' := by
  induction es with
  | nil => rw [setEntry, lookup_cons_eq_ite]
  | cons e es ih =>
    obtain ⟨k, v⟩ := e
    by_cases he : k = key
    · subst he
      rw [setEntry, if_pos rfl, lookup_cons_eq_ite, lookup_cons_eq_ite]
      split <;> rfl
    · rw [setEntry, if_neg he, lookup_cons_eq_ite, lookup_cons_eq_ite, ih]
      split
      · next hk => rw [if_neg (hk ▸ he)]
      · rfl

/-- Under a new key an entry comes last. -/
theorem setEntry_of_not_mem {key : Text} {value : β} {es : List (Text × β)}
    (h : key ∉ es.map Prod.fst) : setEntry key value es = es ++ [(key, value)] := by
  induction es with
  | nil => rfl
  | cons e es ih =>
    rw [List.map_cons, List.mem_cons, not_or] at h
    simp [setEntry, Ne.symm h.1, ih h.2]

/-! ## Setting one after another -/

/-- Entries of different keys stand in the order in which they were set. -/
theorem foldl_setEntry {new es : List (Text × β)} (h : ((es ++ new).map Prod.fst).Nodup) :
    new.foldl (fun es e => setEntry e.1 e.2 es) es = es ++ new := by
  induction new generalizing es with
  | nil => simp
  | cons e new ih =>
    have hk : e.1 ∉ es.map Prod.fst := by
      rw [List.map_append, List.nodup_append] at h
      intro hm
      exact h.2.2 _ hm e.1 (by simp) rfl
    rw [List.foldl_cons, setEntry_of_not_mem hk, ih (by simpa using h)]
    simp

/-- Setting a key puts the value in the place of what the key had first, or behind all entries. -/
inductive IsSet (key : Text) (value : β) : List (Text × β) → List (Text × β) → Prop
  | replaced {front back : List (Text × β)} {old : β} (h : key ∉ front.map Prod.fst) :
      IsSet key value (front ++ (key, old) :: back) (front ++ (key, value) :: back)
  | added {es : List (Text × β)} (h : key ∉ es.map Prod.fst) :
      IsSet key value es (es ++ [(key, value)])

/-- What entries come to when others are set among them in order. -/
inductive AreSet : List (Text × β) → List (Text × β) → List (Text × β) → Prop
  | nil {es : List (Text × β)} : AreSet [] es es
  | cons {key : Text} {value : β} {new es es' es'' : List (Text × β)} :
      IsSet key value es es' → AreSet new es' es'' → AreSet ((key, value) :: new) es es''

theorem IsSet.cons {key : Text} {value : β} {e : Text × β} {es es' : List (Text × β)}
    (he : e.1 ≠ key) (h : IsSet key value es es') : IsSet key value (e :: es) (e :: es') := by
  have hcons {front : List (Text × β)} (hn : key ∉ front.map Prod.fst) :
      key ∉ (e :: front).map Prod.fst := by
    rw [List.map_cons, List.mem_cons, not_or]
    exact ⟨he.symm, hn⟩
  cases h with
  | replaced hn => exact .replaced (hcons hn)
  | added hn => exact .added (hcons hn)

theorem isSet_setEntry (key : Text) (value : β) (es : List (Text × β)) :
    IsSet key value es (setEntry key value es) := by
  induction es with
  | nil => exact .added (List.not_mem_nil)
  | cons e es ih =>
    obtain ⟨k, old⟩ := e
    by_cases h : k = key
    · subst h
      rw [setEntry, if_pos rfl]
      exact @IsSet.replaced _ k value [] es old List.not_mem_nil
    · rw [setEntry, if_neg h]
      exact ih.cons h

theorem setEntry_append_cons {key : Text} {value old : β} {front back : List (Text × β)}
    (h : key ∉ front.map Prod.fst) :
    setEntry key value (front ++ (key, old) :: back) = front ++ (key, value) :: back := by
  induction front with
  | nil => simp [setEntry]
  | cons e front ih =>
    rw [List.map_cons, List.mem_cons, not_or] at h
    simp [setEntry, Ne.symm h.1, ih h.2]

theorem isSet_iff {key : Text} {value : β} {es es' : List (Text × β)} :
    IsSet key value es es' ↔ es' = setEntry key value es := by
  constructor
  · intro h
    cases h with
    | replaced hn => exact (setEntry_append_cons hn).symm
    | added hn => exact (setEntry_of_not_mem hn).symm
  · rintro rfl
    exact isSet_setEntry key value es

theorem areSet_iff {new es es' : List (Text × β)} :
    AreSet new es es' ↔ es' = new.foldl (fun es e => setEntry e.1 e.2 es) es := by
  induction new generalizing es with
  | nil =>
    constructor
    · rintro ⟨⟩
      rfl
    · rintro rfl
      exact .nil
  | cons e new ih =>
    rw [List.foldl_cons, ← ih]
    constructor
    · rintro (_ | ⟨h, hnew⟩)
      rwa [← isSet_iff.mp h]
    · exact fun h => .cons (isSet_setEntry e.1 e.2 es) h

end WikiAxioms
