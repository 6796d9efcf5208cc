import WikiAxioms.Proofs.Markup.Reordering

/-!
# Where a template keeps its values

A positional value is kept at its number, a named one at its key. With another value for one of the
arguments that a template is made of, the template has another value in one slot, or it is the same
because a later argument has the same key.
-/

namespace WikiAxioms.Markup

/-- Where a template keeps a value. -/
inductive Slot where
  | positional (i : Nat)
  | named (key : Text)
  deriving DecidableEq

def Template.valueAt? (t : Template) : Slot → Option Text
  | .positional i => t.positional[i]?
  | .named key => t.get? key

/-- The templates have the same slots in the same order, and the same values but in one slot. -/
structure Template.AgreesBut (slot : Slot) (t u : Template) : Prop where
  name : t.name = u.name
  positional : t.positional.length = u.positional.length
  keys : t.named.keys = u.named.keys
  values : ∀ slot', slot' ≠ slot → t.valueAt? slot' = u.valueAt? slot'

theorem Template.eq_of_parts {t u : Template} (hname : t.name = u.name)
    (hpositional : t.positional = u.positional) (hnamed : t.named = u.named) : t = u := by
  cases t
  cases u
  congr

/-! ## Keys -/

namespace NamedArguments

/-- A key comes to the others when it is first mentioned. -/
def addKey (keys : List Text) (key : Text) : List Text :=
  if keys.contains key then keys else keys ++ [key]

theorem keys_insert (a : NamedArguments) (key value : Text) :
    (a.insert key value).keys = addKey a.keys key := by
  simp only [addKey, List.contains_iff_mem]
  exact keys_setEntry key value a.entries

theorem keys_ofList (es : List (Text × Text)) :
    (ofList es).keys = (es.map Prod.fst).foldl addKey [] := by
  rw [List.foldl_map]
  exact (List.foldl_hom keys fun a (e : Text × Text) => (keys_insert a e.1 e.2).symm).symm

theorem entries_eq (a : NamedArguments) :
    a.entries = a.keys.map fun key => (key, (a.get? key).getD []) := by
  have h : ∀ e ∈ a.entries, (e.1, (a.get? e.1).getD []) = e := by
    intro e he
    rw [get?_eq_some_iff_mem.mpr he]
    rfl
  rw [keys, List.map_map]
  exact ((List.map_congr_left h).trans (List.map_id' _)).symm

/-- Arguments are told apart by their keys and values. -/
theorem eq_of_get? {a b : NamedArguments} (hk : a.keys = b.keys)
    (hv : ∀ key, a.get? key = b.get? key) : a = b := by
  refine eq_of_entries ?_
  rw [a.entries_eq, b.entries_eq, hk]
  simp only [hv]

end NamedArguments

theorem keys_ofArguments (name : Text) (as : List Argument) :
    (Template.ofArguments name as).named.keys =
      (as.filterMap Argument.key?).foldl NamedArguments.addKey [] := by
  have h : (as.filterMap Argument.named?).map Prod.fst = as.filterMap Argument.key? := by
    rw [List.map_filterMap]
    refine List.filterMap_congr fun a _ => ?_
    cases a <;> rfl
  rw [← h]
  exact NamedArguments.keys_ofList _

/-! ## One argument with another value -/

namespace Argument

def withValue (w : Text) : Argument → Argument
  | .positional _ => .positional w
  | .named key _ => .named key w

@[simp] theorem key?_withValue (w : Text) (a : Argument) : (a.withValue w).key? = a.key? := by
  cases a <;> rfl

@[simp] theorem value_withValue (w : Text) (a : Argument) : (a.withValue w).value = w := by
  cases a <;> rfl

/-- The slot of an argument that comes behind the arguments `as`. -/
def slot (as : List Argument) : Argument → Slot
  | .positional _ => .positional (as.filter (·.key? = none)).length
  | .named key _ => .named key

@[simp] theorem slot_withValue (w : Text) (as : List Argument) (a : Argument) :
    (a.withValue w).slot as = a.slot as := by
  cases a <;> rfl

/-- One of the arguments `bs` behind an argument has the same key. -/
def IsOverridden (bs : List Argument) (a : Argument) : Prop :=
  ∃ key, a.key? = some key ∧ ∃ b ∈ bs, b.key? = some key

theorem isOverridden_withValue (w : Text) (bs : List Argument) (a : Argument) :
    (a.withValue w).IsOverridden bs ↔ a.IsOverridden bs := by
  rw [IsOverridden, key?_withValue, IsOverridden]

end Argument

section

variable (name : Text) (as bs : List Argument) (a : Argument) (w : Text)

theorem valueAt?_positional (i : Nat) :
    (Template.ofArguments name as).valueAt? (.positional i) =
      ((as.filter (·.key? = none))[i]?).map Argument.value := by
  rw [Template.valueAt?, positional_ofArguments, List.getElem?_map]

theorem valueAt?_named (key : Text) :
    (Template.ofArguments name as).valueAt? (.named key) =
      ((as.filter (·.key? = some key)).getLast?).map Argument.value :=
  get?_ofArguments name as key

theorem getElem?_append_cons_of_ne {α : Type} {l : List α} {i : Nat} (h : i ≠ l.length) (x y : α)
    (r : List α) : (l ++ x :: r)[i]? = (l ++ y :: r)[i]? := by
  rcases Nat.lt_or_gt_of_ne h with hi | hi
  · rw [List.getElem?_append_left hi, List.getElem?_append_left hi]
  · obtain ⟨j, hj⟩ := Nat.exists_eq_add_of_lt hi
    have hs : i - l.length = j + 1 := by omega
    rw [List.getElem?_append_right hi.le, List.getElem?_append_right hi.le, hs,
      List.getElem?_cons_succ, List.getElem?_cons_succ]

/-- The values in all other slots do not depend on the argument. -/
theorem valueAt?_withValue_of_ne {slot : Slot} (h : slot ≠ a.slot as) :
    (Template.ofArguments name (as ++ a :: bs)).valueAt? slot =
      (Template.ofArguments name (as ++ a.withValue w :: bs)).valueAt? slot := by
  cases slot with
  | positional i =>
    rw [valueAt?_positional, valueAt?_positional, List.filter_append, List.filter_append]
    cases a with
    | named key value => simp [Argument.withValue]
    | positional value =>
      have hi : i ≠ (as.filter (·.key? = none)).length := fun he => h (by rw [he]; rfl)
      have hne := getElem?_append_cons_of_ne hi (.positional value) (.positional w)
        (bs.filter (·.key? = none))
      simpa [Argument.withValue] using congrArg (Option.map Argument.value) hne
  | named key =>
    rw [valueAt?_named, valueAt?_named, List.filter_append, List.filter_append]
    cases a with
    | positional value => simp [Argument.withValue]
    | named key' value =>
      have hk : key' ≠ key := fun he => h (by rw [← he]; rfl)
      simp [Argument.withValue, hk]

theorem agreesBut_withValue :
    (Template.ofArguments name (as ++ a :: bs)).AgreesBut (a.slot as)
      (.ofArguments name (as ++ a.withValue w :: bs)) where
  name := rfl
  positional := by
    rw [positional_ofArguments, positional_ofArguments, List.length_map, List.length_map]
    cases a <;> simp [Argument.withValue]
  keys := by
    rw [keys_ofArguments, keys_ofArguments, List.filterMap_append, List.filterMap_append]
    cases a <;> simp [Argument.withValue, List.filterMap_cons]
  values _ h := valueAt?_withValue_of_ne name as bs a w h

variable {bs a}

/-- An argument is found in its slot if no later one takes it. -/
theorem valueAt?_slot (h : ¬ a.IsOverridden bs) :
    (Template.ofArguments name (as ++ a :: bs)).valueAt? (a.slot as) = some a.value := by
  cases a with
  | positional value => simp [Argument.slot, valueAt?_positional, Argument.value]
  | named key value =>
    have hb : bs.filter (·.key? = some key) = [] := by
      rw [List.filter_eq_nil_iff]
      intro b hb hk
      exact h ⟨key, rfl, b, hb, by simpa using hk⟩
    simp [Argument.slot, valueAt?_named, hb, Argument.value]

/-- Arguments in front of one with the same key do not count. -/
theorem valueAt?_named_append {bs : List Argument} {key : Text}
    (h : ∃ b ∈ bs, b.key? = some key) :
    (Template.ofArguments name (as ++ bs)).valueAt? (.named key) =
      (Template.ofArguments name bs).valueAt? (.named key) := by
  obtain ⟨b, hb, hk⟩ := h
  have hm : b ∈ bs.filter (·.key? = some key) := List.mem_filter.mpr ⟨hb, by simpa using hk⟩
  rw [valueAt?_named, valueAt?_named, List.filter_append, List.getLast?_append,
    List.getLast?_eq_some_getLast (List.ne_nil_of_mem hm), Option.some_or]

theorem ofArguments_withValue_of_isOverridden (h : a.IsOverridden bs) :
    Template.ofArguments name (as ++ a.withValue w :: bs) =
      .ofArguments name (as ++ a :: bs) := by
  obtain ⟨key, hk, hb⟩ := h
  cases a with
  | positional value => cases hk
  | named key' value =>
    obtain rfl := Option.some.inj hk
    have ha := agreesBut_withValue name as bs (.named key' value) w
    refine Template.eq_of_parts ha.name.symm ?_ (NamedArguments.eq_of_get? ha.keys.symm fun k => ?_)
    · rw [positional_ofArguments, positional_ofArguments]
      simp [Argument.withValue]
    · by_cases hs : k = key'
      · have ho (c : Argument) := valueAt?_named_append name (as ++ [c]) hb
        simp only [List.append_assoc, List.singleton_append] at ho
        rw [hs]
        exact (ho _).trans (ho _).symm
      · refine (ha.values (.named k) fun he => hs ?_).symm
        cases he
        rfl

end

end WikiAxioms.Markup
