import WikiAxioms.Proofs.Markup.Equality
import WikiAxioms.Proofs.Markup.Fields

/-!
# The order of fields

What a template gives for a key is the last value of that key, so only the order of fields with one
key matters, and the order of fields without one.
-/

namespace WikiAxioms.Markup

/-- The key that a field names before its first equals sign outside links, none if it has no such
sign. -/
def keyOf? (x : Text) : Option Text :=
  (splitKey false (tokens x)).map fun parts => (contents parts.1).trim

/-- The same fields in another order, but fields of one key in their old order, and those without a
key as well. -/
structure IsReordering (fs gs : List Text) : Prop where
  perm : fs.Perm gs
  order : ∀ key, fs.filter (keyOf? · = key) = gs.filter (keyOf? · = key)

/-- Only the keys that there are have to be looked at. -/
theorem isReordering_iff {fs gs : List Text} :
    IsReordering fs gs ↔ fs.Perm gs ∧ ∀ key ∈ fs.map keyOf?,
      fs.filter (keyOf? · = key) = gs.filter (keyOf? · = key) := by
  constructor
  · exact fun h => ⟨h.perm, fun key _ => h.order key⟩
  · rintro ⟨hp, ho⟩
    refine ⟨hp, fun key => ?_⟩
    by_cases hk : key ∈ fs.map keyOf?
    · exact ho key hk
    · have hf : fs.filter (keyOf? · = key) = [] := by simpa using hk
      have hg := hp.filter (keyOf? · = key)
      rw [hf] at hg ⊢
      exact hg.nil_eq

instance (fs gs : List Text) : Decidable (IsReordering fs gs) :=
  decidable_of_iff' _ isReordering_iff

/-- The key of an argument, none for positional ones. -/
def Argument.key? : Argument → Option Text
  | .positional _ => none
  | .named key _ => some key

@[simp] theorem key?_positional (value : Text) : (Argument.positional value).key? = none := rfl

@[simp] theorem key?_named (key value : Text) : (Argument.named key value).key? = some key := rfl

/-- The argument that a field declares if it declares any. -/
def argumentOf (f : Field) : Argument :=
  match splitKey false f with
  | none => .positional (trimValue (contents f))
  | some (key, value) => .named (contents key).trim (trimValue (contents value))

theorem key?_argumentOf (x : Text) : (argumentOf (tokens x)).key? = keyOf? x := by
  rw [argumentOf, keyOf?]
  cases splitKey false (tokens x) <;> rfl

theorem Declares.eq_argumentOf {f : Field} {a : Argument} (h : Declares f a) :
    a = argumentOf f := by
  rcases declares_iff.mp h with ⟨hf, rfl⟩ | ⟨key, value, rfl, hk, -, -, rfl⟩
  · rw [argumentOf, splitKey_eq_none hf]
  · rw [argumentOf, splitKey_eq_some hk]

theorem forall₂_declares_iff {fields : List Field} {arguments : List Argument} :
    List.Forall₂ Declares fields arguments ↔
      (∀ f ∈ fields, Declares f (argumentOf f)) ∧ arguments = fields.map argumentOf := by
  constructor
  · intro h
    induction h with
    | nil => simp
    | cons ha _ ih =>
      obtain rfl := ha.eq_argumentOf
      rw [ih.2]
      exact ⟨List.forall_mem_cons.mpr ⟨ha, ih.1⟩, rfl⟩
  · rintro ⟨h, rfl⟩
    rwa [List.forall₂_map_right_iff, List.forall₂_same]

/-! ## What counts of the arguments -/

/-- Positional values come in the order of the positional arguments. -/
theorem positional_ofArguments (name : Text) (as : List Argument) :
    (Template.ofArguments name as).positional =
      (as.filter (·.key? = none)).map Argument.value := by
  change as.filterMap Argument.positional? = _
  induction as with
  | nil => rfl
  | cons a as ih =>
    cases a <;> simp [List.filterMap_cons, Argument.positional?, Argument.value, ih]

theorem get?_addArgument (t : Template) (a : Argument) (key : Text) :
    (t.addArgument a).get? key = if a.key? = some key then some a.value else t.get? key := by
  cases a with
  | positional value => rfl
  | named key' value =>
    have h : (t.withNamed key' value).get? key =
        if key = key' then some value else t.get? key :=
      t.named.get?_insert key' value key
    simp [Template.addArgument, Argument.value, h, eq_comm]

/-- The last value of a key counts. -/
theorem get?_ofArguments (name : Text) (as : List Argument) (key : Text) :
    (Template.ofArguments name as).get? key =
      ((as.filter (·.key? = some key)).getLast?).map Argument.value := by
  rw [← foldl_addArgument_ofName]
  induction as using List.reverseRecOn with
  | nil => rfl
  | append_singleton as a ih =>
    rw [List.foldl_concat, get?_addArgument, ih]
    by_cases h : a.key? = some key <;> simp [h]

theorem agrees_ofArguments (name : Text) {as bs : List Argument}
    (h : ∀ key, as.filter (·.key? = key) = bs.filter (·.key? = key)) :
    (Template.ofArguments name as).Agrees (.ofArguments name bs) where
  name := rfl
  positional := by rw [positional_ofArguments, positional_ofArguments, h]
  named := by
    refine NamedArguments.perm_iff_get?.mpr fun key => ?_
    have hg := congrArg (fun l => l.getLast?.map Argument.value) (h (some key))
    exact (get?_ofArguments name as key).trans (hg.trans (get?_ofArguments name bs key).symm)

/-! ## Declarations -/

/-- The template that a name and fields declare if they declare any. -/
def templateOf (name : Text) (fields : List Text) : Template :=
  .ofArguments (contents (tokens name)).trim ((fields.map tokens).map argumentOf)

/-- The name is not blank, and every field declares an argument. -/
structure IsDeclared (name : Text) (fields : List Text) : Prop where
  isField : IsField (tokens name)
  nonblank : (contents (tokens name)).isBlank = false
  declares : ∀ f ∈ fields.map tokens, Declares f (argumentOf f)

theorem ofText_eq_ok_iff_isDeclared {name : Text} {fields : List Text} {t : Template}
    (hs : ∀ x ∈ name :: fields, IsSelfContained x) :
    Template.ofText (declarationText name fields) = .ok t ↔
      IsDeclared name fields ∧ t = templateOf name fields := by
  rw [ofText_declarationText_eq_ok_iff hs]
  simp only [forall₂_declares_iff]
  constructor
  · rintro ⟨hn, hb, _, ⟨hf, rfl⟩, ht⟩
    exact ⟨⟨hn, hb, hf⟩, ht⟩
  · rintro ⟨⟨hn, hb, hf⟩, ht⟩
    exact ⟨hn, hb, _, ⟨hf, rfl⟩, ht⟩

theorem ofText_of_not_isDeclared {name : Text} {fields : List Text}
    (hs : ∀ x ∈ name :: fields, IsSelfContained x) (h : ¬ IsDeclared name fields) :
    ∃ fault, Template.ofText (declarationText name fields) = .error fault := by
  cases ht : Template.ofText (declarationText name fields) with
  | ok t => exact absurd ((ofText_eq_ok_iff_isDeclared hs).mp ht).1 h
  | error fault => exact ⟨fault, rfl⟩

namespace IsReordering

variable {fs gs : List Text} (h : IsReordering fs gs) (name : Text)

include h

theorem isDeclared_iff : IsDeclared name fs ↔ IsDeclared name gs := by
  have hm : (∀ f ∈ fs.map tokens, Declares f (argumentOf f)) ↔
      ∀ f ∈ gs.map tokens, Declares f (argumentOf f) := by
    simp [h.perm.mem_iff]
  exact ⟨fun ⟨hn, hb, hf⟩ => ⟨hn, hb, hm.mp hf⟩, fun ⟨hn, hb, hf⟩ => ⟨hn, hb, hm.mpr hf⟩⟩

theorem agrees_templateOf : (templateOf name fs).Agrees (templateOf name gs) := by
  refine agrees_ofArguments _ fun key => ?_
  have filter (xs : List Text) : ((xs.map tokens).map argumentOf).filter (·.key? = key) =
      ((xs.filter (keyOf? · = key)).map tokens).map argumentOf := by
    simp only [List.filter_map, Function.comp_def, key?_argumentOf]
  rw [filter, filter, h.order]

end IsReordering

/-- With the fields in another order a declaration is refused as well, or it is read as an equal
template. -/
theorem ofText_reordered {name : Text} {fs gs : List Text}
    (hs : ∀ x ∈ name :: fs, IsSelfContained x) (h : IsReordering fs gs) :
    (∃ a b, Template.ofText (declarationText name fs) = .error a ∧
      Template.ofText (declarationText name gs) = .error b) ∨
    ∃ t u, Template.ofText (declarationText name fs) = .ok t ∧
      Template.ofText (declarationText name gs) = .ok u ∧ t.Agrees u := by
  have hs' : ∀ x ∈ name :: gs, IsSelfContained x := by
    simpa [h.perm.mem_iff] using hs
  have hi := h.isDeclared_iff name
  by_cases hd : IsDeclared name fs
  · exact .inr ⟨_, _, (ofText_eq_ok_iff_isDeclared hs).mpr ⟨hd, rfl⟩,
      (ofText_eq_ok_iff_isDeclared hs').mpr ⟨hi.mp hd, rfl⟩, h.agrees_templateOf name⟩
  · obtain ⟨a, ha⟩ := ofText_of_not_isDeclared hs hd
    obtain ⟨b, hb⟩ := ofText_of_not_isDeclared hs' (mt hi.mpr hd)
    exact .inl ⟨a, b, ha, hb⟩

end WikiAxioms.Markup
