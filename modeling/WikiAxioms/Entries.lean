import WikiAxioms.Text.Basic

/-!
# Entries

An entry is a value under a key. In a list of entries that are only set by key, each key stands
where it came first.
-/

namespace WikiAxioms

variable {β : Type}

/-- The entries with `key` set to `value`: in place if the key is there, else at the end. -/
def setEntry (key : Text) (value : β) : List (Text × β) → List (Text × β)
  | [] => [(key, value)]
  | e :: es => if e.1 = key then (key, value) :: es else e :: setEntry key value es

theorem keys_setEntry (key : Text) (value : β) (es : List (Text × β)) :
    (setEntry key value es).map Prod.fst =
      if key ∈ es.map Prod.fst then es.map Prod.fst else es.map Prod.fst ++ [key] := by
  induction es with
  | nil => simp [setEntry]
  | cons e es ih =>
    by_cases h : e.1 = key
    · simp [setEntry, h]
    · have hk : ¬ key = e.1 := fun hk => h hk.symm
      simp only [setEntry, if_neg h, List.map_cons, ih, List.mem_cons, hk, false_or]
      split <;> rfl

theorem nodup_setEntry (key : Text) (value : β) {es : List (Text × β)}
    (h : (es.map Prod.fst).Nodup) : ((setEntry key value es).map Prod.fst).Nodup := by
  rw [keys_setEntry]
  split
  · exact h
  · next hk =>
    rw [List.nodup_append]
    refine ⟨h, by simp, ?_⟩
    intro a ha b hb
    rw [List.mem_singleton] at hb
    intro hab
    exact hk (hb ▸ hab ▸ ha)

/-- As `setEntry`, in one pass with the value that is replaced. -/
def exchangeEntry (key : Text) (value : β) : List (Text × β) → Option β × List (Text × β)
  | [] => (none, [(key, value)])
  | e :: es =>
    if e.1 = key then (some e.2, (key, value) :: es)
    else
      let (old, rest) := exchangeEntry key value es
      (old, e :: rest)

theorem exchangeEntry_eq (key : Text) (value : β) (es : List (Text × β)) :
    exchangeEntry key value es = (es.lookup key, setEntry key value es) := by
  induction es with
  | nil => rfl
  | cons e es ih =>
    obtain ⟨k, v⟩ := e
    by_cases h : k = key
    · simp [exchangeEntry, setEntry, h]
    · have hb : (key == k) = false := beq_false_of_ne (Ne.symm h)
      simp [exchangeEntry, setEntry, List.lookup_cons, h, hb, ih]

theorem nodup_exchangeEntry (key : Text) (value : β) {es : List (Text × β)}
    (h : (es.map Prod.fst).Nodup) : ((exchangeEntry key value es).2.map Prod.fst).Nodup := by
  rw [exchangeEntry_eq]
  exact nodup_setEntry key value h

end WikiAxioms
