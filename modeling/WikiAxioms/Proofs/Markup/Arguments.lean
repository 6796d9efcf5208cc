import WikiAxioms.Proofs.Markup.Slots

/-!
# Arguments that are set one after another

Of the calls that set them, named arguments keep two things: the order in which the keys came first,
and the last value of each key. Equality sees the values only, so it does not matter in which order
the keys came.
-/

namespace WikiAxioms.Markup.NamedArguments

/-- Sets arguments in order; beside the outcome, what each of them replaced. -/
def exchangeAll (a : NamedArguments) : List (Text × Text) → List (Option Text) × NamedArguments
  | [] => ([], a)
  | e :: es =>
    let (old, b) := a.exchange e.1 e.2
    let (olds, c) := b.exchangeAll es
    (old :: olds, c)

/-- The last value that is set under a key. -/
def lastValue? (es : List (Text × Text)) (key : Text) : Option Text :=
  ((es.filter (·.1 = key)).getLast?).map Prod.snd

theorem exchangeAll_cons (a : NamedArguments) (e : Text × Text) (es : List (Text × Text)) :
    a.exchangeAll (e :: es) =
      (a.get? e.1 :: ((a.insert e.1 e.2).exchangeAll es).1,
        ((a.insert e.1 e.2).exchangeAll es).2) := by
  rw [exchangeAll, exchange_eq]

/-- The arguments come to the same whether or not anybody looks at what they replace. -/
theorem snd_exchangeAll (a : NamedArguments) (es : List (Text × Text)) :
    (a.exchangeAll es).2 = es.foldl (fun a e => a.insert e.1 e.2) a := by
  induction es generalizing a with
  | nil => rfl
  | cons e es ih => rw [exchangeAll_cons, ih, List.foldl_cons]

theorem snd_exchangeAll_empty (es : List (Text × Text)) :
    (empty.exchangeAll es).2 = ofList es :=
  snd_exchangeAll empty es

/-- Every argument replaces what its key has after the arguments in front of it. -/
theorem fst_exchangeAll (a : NamedArguments) (es : List (Text × Text)) :
    (a.exchangeAll es).1 = es.mapIdx fun i e => (a.exchangeAll (es.take i)).2.get? e.1 := by
  induction es generalizing a with
  | nil => rfl
  | cons e es ih =>
    rw [exchangeAll_cons, ih, List.mapIdx_cons]
    simp [exchangeAll, exchange_eq]

/-! ## Keys and values -/

theorem addKey_eraseDups (keys : List Text) (key : Text) :
    addKey keys.eraseDups key = (keys ++ [key]).eraseDups := by
  rw [addKey, List.eraseDups_append]
  by_cases h : key ∈ keys <;> simp [List.removeAll, List.eraseDups_cons, h]

theorem foldl_addKey (keys : List Text) : keys.foldl addKey [] = keys.eraseDups := by
  induction keys using List.reverseRecOn with
  | nil => rfl
  | append_singleton keys key ih => rw [List.foldl_concat, ih, addKey_eraseDups]

theorem lastValue?_append_singleton (es : List (Text × Text)) (e : Text × Text) (key : Text) :
    lastValue? (es ++ [e]) key = if key = e.1 then some e.2 else lastValue? es key := by
  by_cases h : e.1 = key
  · simp [lastValue?, h]
  · simp [lastValue?, h, Ne.symm h]

/-- The last value of a key is the one that is found. -/
theorem get?_ofList (es : List (Text × Text)) (key : Text) :
    (ofList es).get? key = lastValue? es key := by
  induction es using List.reverseRecOn with
  | nil => rfl
  | append_singleton es e ih =>
    rw [ofList, List.foldl_concat, ← ofList, get?_insert, ih, lastValue?_append_singleton]

/-! ## Equality -/

/-- Arguments are equal if no key tells them apart. The entries of one side alone are looked up in
the other, but as both sides have as many keys, and each key once, none of the other is left out. -/
theorem beq_iff_get? {a b : NamedArguments} :
    (a == b) = true ↔ ∀ key, a.get? key = b.get? key :=
  beq_iff_perm.trans perm_iff_get?

theorem equivalence_beq : Equivalence fun a b : NamedArguments => (a == b) = true where
  refl _ := beq_iff_get?.mpr fun _ => rfl
  symm h := beq_iff_get?.mpr fun key => (beq_iff_get?.mp h key).symm
  trans h h' := beq_iff_get?.mpr fun key => (beq_iff_get?.mp h key).trans (beq_iff_get?.mp h' key)

/-- Arguments that are set one after another have each key once, where it came first, with the value
that came last, and each replaces what its key had before. Two collections are equal if no key tells
them apart, so the order of the arguments matters within each key only. -/
theorem exchangeAll_empty_ordered (es fs : List (Text × Text)) :
    let a := (empty.exchangeAll es).2
    let b := (empty.exchangeAll fs).2
    a.keys.Nodup ∧ a.keys = (es.map Prod.fst).eraseDups ∧
      (∀ key, a.get? key = lastValue? es key) ∧
      (empty.exchangeAll es).1 =
        es.mapIdx (fun i e => (empty.exchangeAll (es.take i)).2.get? e.1) ∧
      ((a == b) = true ↔ ∀ key, a.get? key = b.get? key) ∧
      Equivalence (fun a b : NamedArguments => (a == b) = true) ∧
      ((∀ key, es.filter (·.1 = key) = fs.filter (·.1 = key)) → (a == b) = true) := by
  intro a b
  have ha : a = ofList es := snd_exchangeAll_empty es
  have hb : b = ofList fs := snd_exchangeAll_empty fs
  refine ⟨a.nodup, ?_, ?_, fst_exchangeAll empty es, beq_iff_get?, equivalence_beq, ?_⟩
  · rw [ha, keys_ofList, foldl_addKey]
  · intro key
    rw [ha, get?_ofList]
  · intro h
    refine beq_iff_get?.mpr fun key => ?_
    rw [ha, hb, get?_ofList, get?_ofList, lastValue?, h, lastValue?]

/-- A key is set again behind another one; with the keys the other way round nothing is lost. -/
theorem exchangeAll_empty_ordered_repeated :
    let es : List (Text × Text) := [("b", "1"), ("a", "2"), ("b", "3")]
    let fs : List (Text × Text) := [("a", "2"), ("b", "1"), ("b", "3")]
    (∀ key, es.filter (·.1 = key) = fs.filter (·.1 = key)) ∧
      (empty.exchangeAll es).1 = [none, none, some ['1']] ∧
      (empty.exchangeAll es).2.keys = ["b", "a"] ∧
      (empty.exchangeAll es).2.get? "b" = some ['3'] ∧
      ((empty.exchangeAll es).2 == (empty.exchangeAll fs).2) = true := by
  intro es fs
  have h : ∀ key, es.filter (·.1 = key) = fs.filter (·.1 = key) := by
    intro key
    by_cases ha : key = ['a']
    · subst ha
      decide
    · simp [es, fs, List.filter_cons, Ne.symm ha]
  obtain ⟨-, hkeys, hvalues, hreplaced, -, -, hequal⟩ := exchangeAll_empty_ordered es fs
  exact ⟨h, hreplaced.trans (by decide), hkeys, hvalues "b", hequal h⟩

end WikiAxioms.Markup.NamedArguments
