import WikiAxioms.Proofs.Catalog.Standard
import WikiAxioms.Proofs.Entity

/-!
# Well-formed constraints

What comes out of a declaration can be relied on without looking at it again: identifiers and
decimals are in their canonical forms, bounds are the right way round, and nothing that has to be
there is empty.
-/

namespace WikiAxioms

namespace Rule

/-- The items that a rule names. -/
def items : Rule → List ItemId
  | .type members _ | .valueType members _ => [members]
  | .oneOf values => values
  | .targetRequiredClaim _ value => value.toList
  | .item _ value exceptions => value.toList ++ exceptions
  | .conflictsWith _ values => values
  | _ => []

/-- The properties that a rule names. -/
def properties : Rule → List PropertyId
  | .inverse property => [property]
  | .diffWithinRange base _ _ => [base]
  | .targetRequiredClaim required _ => [required]
  | .item required _ _ => [required]
  | .conflictsWith conflicting _ => [conflicting]
  | .qualifiers allowed => allowed
  | _ => []

/-- The bounds of a rule. -/
def decimals : Rule → List Decimal
  | .range min max => [min, max]
  | .diffWithinRange _ min max => [min, max]
  | _ => []

/-- What a rule has to fulfil beyond the forms of its parts. Bounds are compared as numbers. -/
def Fits (check : Catalog.PatternCheck) : Rule → Prop
  | .format pattern => pattern ≠ [] ∧ pattern.trim = pattern ∧ check pattern = .ok ()
  | .oneOf values => values ≠ []
  | .range min max => min.value ≤ max.value
  | .diffWithinRange _ min max => min.value ≤ max.value
  | _ => True

end Rule

/-- Every part of the constraint has its canonical form, and the rule fits. -/
structure Constraint.IsWellFormed (check : Catalog.PatternCheck) (c : Constraint) : Prop where
  items : ∀ id ∈ c.rule.items, IsIdentifier 'Q' id.text
  properties : ∀ id ∈ c.property :: c.rule.properties, IsIdentifier 'P' id.text
  decimals : ∀ d ∈ c.rule.decimals, d.IsCanonical
  fits : c.rule.Fits check

namespace Catalog

open WikiAxioms.Markup

variable {check : PatternCheck} {t : Template}

theorem isBlank_of_gives {α : Type} {key : Text} {parse : Text → Except Reason α} {a : α}
    (h : Gives t key parse a) : ∃ value, value.isBlank = false ∧ parse value = .ok a := by
  obtain ⟨value, hv, ha⟩ := h
  rw [filled?, Option.filter_eq_some_iff] at hv
  exact ⟨value, by simpa using hv.2, ha⟩

/-- The rule that a template gives fits. -/
theorem fits_of_givesRule {rule : Rule} (h : GivesRule check t rule) : rule.Fits check := by
  cases rule with
  | format pattern =>
    obtain ⟨value, hb, hp⟩ := isBlank_of_gives h
    obtain ⟨rfl, hc⟩ := patternOf_eq_ok_iff.mp hp
    refine ⟨fun hn => ?_, Text.trim_trim value, hc⟩
    rw [Text.trim_eq_nil_iff, hb] at hn
    cases hn
  | oneOf values =>
    obtain ⟨value, -, hv⟩ := isBlank_of_gives h
    exact (entitiesOf_eq_ok_iff.mp hv).2
  | range min max => exact (Decimal.compare_ne_gt_iff min max).mp h.2.2
  | diffWithinRange base min max => exact (Decimal.compare_ne_gt_iff min max).mp h.2.2.2
  | _ => trivial

/-- A constraint that a declaration declares is one on the given property, of the kind that the
declaration names, and well formed. -/
theorem isWellFormed_of_compile {policy : Policy} {property : PropertyId} {declaration : Text}
    {c : Constraint}
    (h : (compile (Registry.standard check policy) property declaration).1 = .ok c) :
    c.property = property ∧
      (∃ t, Template.ofText declaration = .ok t ∧ c.kind.templateName = normalizeName t.name) ∧
      c.IsWellFormed check := by
  obtain ⟨t, ht, hb⟩ := fst_compile_standard_eq_ok_iff.mp h
  obtain ⟨hp, hn, hg, -⟩ := fst_build_standard_eq_ok_iff.mp hb
  refine ⟨hp, ⟨t, ht, hn.symm⟩, ?_⟩
  exact
    { items := fun id _ => id.isIdentifier_text
      properties := fun id _ => id.isIdentifier_text
      decimals := fun d _ => d.isCanonical
      fits := fits_of_givesRule hg }

/-- Loose spelling of the name, a linked identifier and needless zeros, in one declaration. -/
theorem isWellFormed_of_compile_loose :
    let r := Registry.standard (fun _ => .ok ()) .reject
    let declaration : Text :=
      "\x7b\x7bconstraint: diff_within  range|base_property=[[p569]]|min= -0.50|max=+007\x7d\x7d"
    let min : Decimal := ⟨true, "0", "5", by decide, by decide, by decide, by decide⟩
    let max : Decimal := ⟨false, "7", "", by decide, by decide, by decide, by decide⟩
    let c : Constraint := ⟨.instanceOf, .diffWithinRange ⟨"569", by decide⟩ min max⟩
    (compile r .instanceOf declaration).1 = .ok c ∧
      c.property = .instanceOf ∧
      (∃ t, Template.ofText declaration = .ok t ∧ c.kind.templateName = normalizeName t.name) ∧
      c.IsWellFormed fun _ => .ok () := by
  intro r declaration min max c
  have ho : (compile r .instanceOf declaration).1.toOption = some c := by decide +kernel
  have h : (compile r .instanceOf declaration).1 = .ok c := by
    cases hc : (compile r .instanceOf declaration).1 with
    | error fault => rw [hc] at ho; cases ho
    | ok c' => rw [hc] at ho; exact congrArg _ (Option.some.inj ho)
  exact ⟨h, isWellFormed_of_compile h⟩

end Catalog

end WikiAxioms
