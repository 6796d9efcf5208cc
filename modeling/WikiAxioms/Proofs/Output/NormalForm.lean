import WikiAxioms.Proofs.Output.Decoding
import WikiAxioms.Proofs.Output.Term

/-!
# Constraints with the same axiom

Belonging to a class by way of subclasses is having a value of the property that states it. So two
kinds of rule say what rules of other kinds say, and `normalForm` puts those in their place. Main
statement: nothing else is lost in an axiom, and constraints have the same axiom exactly if they
have the same normal form.
-/

namespace WikiAxioms

/-- The rule that stands for all rules with the same axiom. -/
def Rule.normalForm : Rule → Rule
  | .type members .subclassOf => .item .subclassOf (some members) []
  | .valueType members .subclassOf => .targetRequiredClaim .subclassOf (some members)
  | rule => rule

def Constraint.normalForm (c : Constraint) : Constraint := ⟨c.property, c.rule.normalForm⟩

theorem Rule.normalForm_normalForm (rule : Rule) :
    rule.normalForm.normalForm = rule.normalForm := by
  cases rule with
  | type _ membership => cases membership <;> rfl
  | valueType _ membership => cases membership <;> rfl
  | _ => rfl

namespace Output

/-! ## Axioms are readable -/

section Readable

variable {a : Text}

theorem isDelimiter_of_mem_text {kind : EntityKind} {id : EntityId kind} {c : Char}
    (h : c ∈ id.text) : isDelimiter c = false := by
  rcases EntityId.isDigit_of_mem_text h with rfl | hd
  · cases kind <;> decide
  · have hc : c ≠ '(' ∧ c ≠ ')' ∧ c ≠ '"' := by
      refine ⟨?_, ?_, ?_⟩ <;> rintro rfl <;> cases hd
    simp [isDelimiter, isSpace_of_isDigit hd, hc]

theorem isReadable_pair {functor : Text} (hf : IsWord functor) {t u : Term} (ht : t.IsReadable)
    (hu : u.IsReadable) : (Term.apply functor [t, u]).IsReadable :=
  .apply hf (by simpa using ⟨ht, hu⟩)

theorem isReadable_thing : thing.IsReadable := .name (by decide)

theorem isReadable_decimalsBetween (min max : Decimal) : (decimalsBetween min max).IsReadable := by
  have hb (d : Decimal) : (bound d).IsReadable := .typed _ (by decide)
  have hn : ∀ w ∈ [decimalType, "xsd:minInclusive", "xsd:maxInclusive"],
      (Term.name w).IsReadable := fun w hw => .name (by revert w; decide)
  exact .apply (by decide) (by simpa [hb] using hn)

theorem isReadable_textsMatching (pattern : Text) : (textsMatching pattern).IsReadable := by
  have hn : ∀ w ∈ (["xsd:string", "xsd:pattern"] : List Text), (Term.name w).IsReadable :=
    fun w hw => .name (by revert w; decide)
  exact .apply (by decide) (by simpa [Term.IsReadable.plain] using hn)

variable (ha : ∀ c ∈ a, isDelimiter c = false)

include ha

theorem isReadable_entityTerm {kind : EntityKind} (id : EntityId kind) :
    (entityTerm a id).IsReadable := by
  refine .name ⟨by simp, fun c hc => ?_⟩
  rw [List.mem_append, List.mem_append, List.mem_singleton] at hc
  rcases hc with (hc | rfl) | hc
  · exact ha c hc
  · decide
  · exact isDelimiter_of_mem_text hc

theorem isReadable_singleton {functor : Text} (hf : IsWord functor) {kind : EntityKind}
    (id : EntityId kind) : (Term.apply functor [entityTerm a id]).IsReadable :=
  .apply hf (by simpa using isReadable_entityTerm ha id)

theorem isReadable_hasSome (p : PropertyId) : (hasSome a p).IsReadable :=
  isReadable_pair (by decide) (isReadable_entityTerm ha p) isReadable_thing

theorem isReadable_valueOf (p : PropertyId) : (valueOf a p).IsReadable :=
  isReadable_pair (by decide) (isReadable_singleton ha (by decide) p) isReadable_thing

theorem isReadable_hasValue (p : PropertyId) (q : ItemId) : (hasValue a p q).IsReadable :=
  isReadable_pair (by decide) (isReadable_entityTerm ha p) (isReadable_entityTerm ha q)

theorem isReadable_oneOf (items : List ItemId) : (oneOf a items).IsReadable :=
  .apply (by decide) (by simpa using fun q _ => isReadable_entityTerm ha q)

theorem isReadable_carries (p : PropertyId) (item : Option ItemId) :
    (carries a p item).IsReadable := by
  cases item with
  | none => exact isReadable_hasSome ha p
  | some q => exact isReadable_hasValue ha p q

theorem isReadable_hasSomeExcept (p : PropertyId) (items : List ItemId) :
    (hasSomeExcept a p items).IsReadable := by
  cases items with
  | nil => exact isReadable_hasSome ha p
  | cons q qs =>
    have hc : (Term.apply "ObjectComplementOf" [oneOf a (q :: qs)]).IsReadable :=
      .apply (by decide) (by simpa using isReadable_oneOf ha (q :: qs))
    exact isReadable_pair (by decide) (isReadable_hasSome ha p) hc

theorem isReadable_hasSomeOf (p : PropertyId) (items : List ItemId) :
    (hasSomeOf a p items).IsReadable := by
  cases items with
  | nil => exact isReadable_hasSome ha p
  | cons q qs =>
    exact isReadable_pair (by decide) (isReadable_entityTerm ha p) (isReadable_oneOf ha (q :: qs))

/-- Every axiom is readable. -/
theorem isReadable_of_axiomOf? {p : PropertyId} {rule : Rule} {t : Term}
    (h : axiomOf? a p rule = some t) : t.IsReadable := by
  have entity {kind : EntityKind} (id : EntityId kind) := isReadable_entityTerm ha id
  cases rule with
  | type q membership =>
    cases membership <;> cases h
    · exact isReadable_pair (by decide) (entity p) (entity q)
    · exact isReadable_pair (by decide) (isReadable_hasSome ha p) (isReadable_hasValue ha _ q)
  | valueType q membership =>
    cases membership <;> cases h
    · exact isReadable_pair (by decide) (entity p) (entity q)
    · exact isReadable_pair (by decide) (isReadable_valueOf ha p) (isReadable_hasValue ha _ q)
  | singleValue | uniqueValue | symmetric =>
    cases h
    exact isReadable_singleton ha (by decide) p
  | inverse q =>
    cases h
    exact isReadable_pair (by decide) (entity p) (entity q)
  | format pattern =>
    cases h
    exact isReadable_pair (by decide) (entity p) (isReadable_textsMatching pattern)
  | oneOf values =>
    cases h
    exact isReadable_pair (by decide) (entity p) (isReadable_oneOf ha values)
  | range min max =>
    cases h
    exact isReadable_pair (by decide) (entity p) (isReadable_decimalsBetween min max)
  | targetRequiredClaim required item =>
    cases h
    exact isReadable_pair (by decide) (isReadable_valueOf ha p)
      (isReadable_carries ha required item)
  | item required item exceptions =>
    cases h
    exact isReadable_pair (by decide) (isReadable_hasSomeExcept ha p exceptions)
      (isReadable_carries ha required item)
  | conflictsWith conflicting values =>
    cases h
    exact isReadable_pair (by decide) (isReadable_hasSome ha p)
      (isReadable_hasSomeOf ha conflicting values)
  | multiValue | existingFile | diffWithinRange | qualifiers => cases h

end Readable

/-! ## Axioms determine normal forms -/

section Injective

variable {a : Text}

@[simp] theorem entityTerm_inj {kind : EntityKind} {x y : EntityId kind} :
    entityTerm a x = entityTerm a y ↔ x = y := by
  refine ⟨fun h => ?_, fun h => h ▸ rfl⟩
  exact EntityId.text_injective (List.append_cancel_left (Term.name.inj h))

@[simp] theorem bound_inj {d e : Decimal} : bound d = bound e ↔ d = e :=
  ⟨fun h => Decimal.text_injective (Term.literal.inj h).1, fun h => h ▸ rfl⟩

@[simp] theorem oneOf_inj {qs rs : List ItemId} : oneOf a qs = oneOf a rs ↔ qs = rs := by
  simp only [oneOf, Term.apply.injEq, true_and]
  exact (List.map_injective_iff.mpr fun _ _ => entityTerm_inj.mp).eq_iff

@[simp] theorem hasSome_inj {p q : PropertyId} : hasSome a p = hasSome a q ↔ p = q := by
  simp [hasSome, someValuesFrom]

@[simp] theorem valueOf_inj {p q : PropertyId} : valueOf a p = valueOf a q ↔ p = q := by
  simp [valueOf, someValuesFrom]

@[simp] theorem hasValue_inj {p p' : PropertyId} {q q' : ItemId} :
    hasValue a p q = hasValue a p' q' ↔ p = p' ∧ q = q' := by
  simp [hasValue]

@[simp] theorem decimalsBetween_inj {d e d' e' : Decimal} :
    decimalsBetween d e = decimalsBetween d' e' ↔ d = d' ∧ e = e' := by
  simp [decimalsBetween]

@[simp] theorem textsMatching_inj {s t : Text} : textsMatching s = textsMatching t ↔ s = t := by
  simp [textsMatching]

@[simp] theorem carries_inj {p p' : PropertyId} {item item' : Option ItemId} :
    carries a p item = carries a p' item' ↔ p = p' ∧ item = item' := by
  cases item <;> cases item' <;> simp [carries, hasSome, hasValue, someValuesFrom]

@[simp] theorem hasSomeExcept_inj {p p' : PropertyId} {qs qs' : List ItemId} :
    hasSomeExcept a p qs = hasSomeExcept a p' qs' ↔ p = p' ∧ qs = qs' := by
  cases qs <;> cases qs' <;> simp [hasSomeExcept, hasSome, someValuesFrom]

@[simp] theorem hasSomeOf_inj {p p' : PropertyId} {qs qs' : List ItemId} :
    hasSomeOf a p qs = hasSomeOf a p' qs' ↔ p = p' ∧ qs = qs' := by
  have hn (rs : List ItemId) : thing ≠ oneOf a rs := by simp [thing, oneOf]
  cases qs <;> cases qs' <;> simp [hasSomeOf, hasSome, someValuesFrom, hn, (hn _).symm]

/-- The kinds in normal form by the functors of their axioms. Where two kinds share a functor, the
arguments tell them apart. -/
def kindsByFunctor : List (Text × (List Term → Kind)) :=
  [("ObjectPropertyDomain", fun _ => .type),
    ("ObjectPropertyRange", fun
      | [_, .name _] => .valueType
      | _ => .oneOf),
    ("FunctionalObjectProperty", fun _ => .singleValue),
    ("InverseFunctionalObjectProperty", fun _ => .uniqueValue),
    ("SymmetricObjectProperty", fun _ => .symmetric),
    ("InverseObjectProperties", fun _ => .inverse),
    ("DataPropertyRange", fun
      | [_, .apply _ [_, _, _]] => .format
      | _ => .range),
    ("SubClassOf", fun
      | [.apply _ [.apply _ _, .name _], _] => .targetRequiredClaim
      | _ => .item),
    ("DisjointClasses", fun _ => .conflictsWith)]

/-- The kind that an axiom comes from. -/
def kindOf? : Term → Option Kind
  | .apply functor arguments => (kindsByFunctor.lookup functor).map (· arguments)
  | _ => none

variable {p p' : PropertyId} {rule rule' : Rule} {t : Term}

theorem kindOf?_of_axiomOf? (hn : rule.normalForm = rule) (h : axiomOf? a p rule = some t) :
    kindOf? t = some rule.kind := by
  cases rule with
  | type q membership =>
    cases membership with
    | instanceOf => cases h; rfl
    | subclassOf => cases hn
  | valueType q membership =>
    cases membership with
    | instanceOf => cases h; rfl
    | subclassOf => cases hn
  | item required item exceptions => cases exceptions <;> cases h <;> rfl
  | _ => cases h <;> rfl

/-- Among rules of one kind in normal form, the axiom determines the rule and the property. -/
theorem axiomOf?_inj_of_kind (hn : rule.normalForm = rule) (hn' : rule'.normalForm = rule')
    (hk : rule.kind = rule'.kind) (h : axiomOf? a p rule = some t)
    (h' : axiomOf? a p' rule' = some t) : p = p' ∧ rule = rule' := by
  have he := h.trans h'.symm
  cases rule with
  | type q membership | valueType q membership =>
    cases rule' <;> cases hk
    rename_i q' membership'
    cases membership <;> cases membership' <;> cases hn <;> cases hn'
    simpa [axiomOf?] using he
  | multiValue | existingFile | diffWithinRange | qualifiers => cases h
  | item required item exceptions =>
    cases rule' <;> cases hk
    simp only [axiomOf?, subClassOf, Option.some.injEq, Term.apply.injEq, List.cons.injEq,
      hasSomeExcept_inj, carries_inj] at he
    obtain ⟨-, ⟨rfl, rfl⟩, ⟨rfl, rfl⟩, -⟩ := he
    exact ⟨rfl, rfl⟩
  | _ =>
    cases rule' <;> cases hk
    simpa [axiomOf?, subClassOf] using he

theorem axiomOf?_normalForm (p : PropertyId) (rule : Rule) :
    axiomOf? a p rule.normalForm = axiomOf? a p rule := by
  cases rule with
  | type _ membership => cases membership <;> rfl
  | valueType _ membership => cases membership <;> rfl
  | _ => rfl

/-- Constraints have the same axiom exactly if they have the same normal form. -/
theorem axiomOf?_eq_iff {c c' : Constraint} (hc : (axiomOf? a c.property c.rule).isSome = true) :
    axiomOf? a c.property c.rule = axiomOf? a c'.property c'.rule ↔
      c.normalForm = c'.normalForm := by
  constructor
  · intro h
    obtain ⟨t, ht⟩ := Option.isSome_iff_exists.mp hc
    rw [ht] at h
    rw [← axiomOf?_normalForm] at ht h
    have hk := (kindOf?_of_axiomOf? c.rule.normalForm_normalForm ht).symm.trans
      (kindOf?_of_axiomOf? c'.rule.normalForm_normalForm h.symm)
    obtain ⟨hp, hr⟩ := axiomOf?_inj_of_kind c.rule.normalForm_normalForm
      c'.rule.normalForm_normalForm (Option.some.inj hk) ht h.symm
    exact congrArg₂ Constraint.mk hp hr
  · intro h
    obtain ⟨hp, hr⟩ := Constraint.mk.inj h
    rw [← axiomOf?_normalForm c.property, ← axiomOf?_normalForm c'.property, hp, hr]

end Injective

/-! ## Blocks -/

variable {settings : RenderSettings}

theorem blockText_functional (ordinal : Nat) {c : Constraint} {t : Term}
    (h : axiomOf? settings.abbreviation c.property c.rule = some t) :
    (functional settings).blockText ordinal c = t.text ++ ['\n'] := by
  rw [Backend.blockText, append_functional_of_axiomOf? h, List.nil_append]

/-- Unless the abbreviation gets in the way of reading, supported constraints are written alike
exactly if they have the same normal form. -/
theorem blockText_functional_eq_iff
    (ha : ∀ ch ∈ settings.abbreviation, isSpace ch = false ∧ ch ≠ '(' ∧ ch ≠ ')' ∧ ch ≠ '"')
    {c c' : Constraint} (hc : (functional settings).supports c.kind = true)
    (hc' : (functional settings).supports c'.kind = true) (ordinal ordinal' : Nat) :
    (functional settings).blockText ordinal c = (functional settings).blockText ordinal' c' ↔
      c.normalForm = c'.normalForm := by
  have hd : ∀ ch ∈ settings.abbreviation, isDelimiter ch = false := fun ch hm => by
    simp [isDelimiter, ha ch hm]
  rw [supports_functional] at hc hc'
  rw [← axiomOf?_eq_iff hc]
  obtain ⟨t, ht⟩ := Option.isSome_iff_exists.mp hc
  obtain ⟨u, hu⟩ := Option.isSome_iff_exists.mp hc'
  rw [blockText_functional ordinal ht, blockText_functional ordinal' hu, ht, hu, Option.some.injEq]
  constructor
  · intro h
    have hr : IsRest ['\n'] := ⟨isStop_cons (by decide) [], by decide⟩
    exact ((isReadable_of_axiomOf? hd ht).isToldApart (isReadable_of_axiomOf? hd hu) hr hr h).1
  · rintro rfl
    rfl

/-- A class constraint and the one that says the same of values of a property, under an empty
abbreviation. -/
theorem blockText_functional_eq_iff_subclass :
    let settings := { RenderSettings.default with abbreviation := [] }
    let b := functional settings
    let q : ItemId := ⟨"5", by decide⟩
    let c : Constraint := ⟨.instanceOf, .type q .subclassOf⟩
    let c' : Constraint := ⟨.instanceOf, .item .subclassOf (some q) []⟩
    (∀ ch ∈ settings.abbreviation, isSpace ch = false ∧ ch ≠ '(' ∧ ch ≠ ')' ∧ ch ≠ '"') ∧
      b.supports c.kind = true ∧ b.supports c'.kind = true ∧
      (b.blockText 1 c = b.blockText 2 c' ↔ c.normalForm = c'.normalForm) ∧
      b.blockText 1 c = b.blockText 2 c' := by
  intro settings b q c c'
  have ha : ∀ ch ∈ settings.abbreviation,
      isSpace ch = false ∧ ch ≠ '(' ∧ ch ≠ ')' ∧ ch ≠ '"' := by simp [settings]
  have h : b.blockText 1 c = b.blockText 2 c' ↔ c.normalForm = c'.normalForm :=
    blockText_functional_eq_iff ha rfl rfl 1 2
  exact ⟨ha, rfl, rfl, h, h.mpr rfl⟩

end Output

end WikiAxioms
