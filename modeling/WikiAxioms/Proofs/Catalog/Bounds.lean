import WikiAxioms.Proofs.Catalog.Table

/-!
# Bounds as numbers

Two decimals are read from their texts and compared. The outcome is that of comparing the numbers
that the texts write, of whatever length they are; so the kinds with bounds take exactly those whose
lower bound is no greater than the upper one.
-/

namespace WikiAxioms.Catalog

open WikiAxioms.Markup
open Decimal (Writes)
open ParameterReader

variable {α : Type} {check : PatternCheck} {t : Template}

theorem gives_decimal_of_ofText {key value : Text} {d : Decimal} (hv : t.get? key = some value)
    (hd : Decimal.ofText value = .ok d) : Gives t key decimalOf d := by
  refine ⟨value, ?_, mapError_eq_ok_iff.mpr hd⟩
  rw [filled?_of_get?_eq_some hv, if_neg (by simp [Decimal.isBlank_of_ofText hd])]

/-- A row yields what the template gives under its key. -/
theorem yields_of_gives {parse : Text → Except Reason α} {shape : Shape} {part : α → Part}
    (h : ∀ value, shape.Means check value ((parse value).map part)) {key : Text} {a : α}
    (hg : Gives t key parse a) : Row.Yields check t ⟨key, .mandatory, shape⟩ (.ok (part a)) := by
  obtain ⟨value, hv, ha⟩ := hg
  rw [filled?, Option.filter_eq_some_iff, Bool.not_eq_true'] at hv
  have hm := h value
  rw [ha] at hm
  simp only [Row.Yields, hv.1, hv.2, Bool.false_eq_true, if_false]
  exact ⟨_, hm, rfl⟩

theorem yields_decimal {key value : Text} {d : Decimal} (hv : t.get? key = some value)
    (hd : Decimal.ofText value = .ok d) :
    Row.Yields check t ⟨key, .mandatory, .decimal⟩ (.ok (.decimal d)) :=
  yields_of_gives (fun _ => .decimal (meansDecimal_iff.mpr rfl)) (gives_decimal_of_ofText hv hd)

/-- Where the rows of a kind yield the parts of a rule, only its bounds can be at fault. -/
theorem fst_runFrom_ruleReader {rule : Rule} {request : Request}
    (h : Walk check request.template (table rule.kind) (.ok (partsOf rule)))
    (asked : List Text) :
    ((ruleReader check rule.kind).runFrom request asked).1 = checkBounds rule := by
  obtain ⟨outcome, hw, he⟩ := walks_ruleReader check rule.kind request asked
  obtain rfl := hw.unique h
  obtain ⟨rule', hk, hp, he⟩ := he
  rw [he, eq_of_partsOf_eq hk hp]

/-- Decimals compare as the numbers that their texts write. That is a total and transitive order in
which only equal decimals are equivalent, and bounds are accepted exactly when they are in order as
numbers; else the upper one is at fault. -/
theorem compare_ofText {a b : Text} {d e : Decimal} {x y : ℚ} (ha : Decimal.ofText a = .ok d)
    (hb : Decimal.ofText b = .ok e) (hx : Writes a x) (hy : Writes b y) :
    ((compare d e = .lt ↔ x < y) ∧ (compare d e = .eq ↔ x = y) ∧ (compare d e = .gt ↔ y < x)) ∧
      Std.TransOrd Decimal ∧ Std.LawfulEqOrd Decimal ∧
      ∀ (check : PatternCheck) (request : Request) (asked : List Text),
        request.template.get? "min" = some a → request.template.get? "max" = some b →
        ((ruleReader check .range).runFrom request asked).1 =
            (if x ≤ y then .ok (.range d e)
              else .error (.invalid "max" e.text (.belowMin d))) ∧
          ∀ base, Gives request.template "base_property" (entityOf .property) base →
            ((ruleReader check .diffWithinRange).runFrom request asked).1 =
              if x ≤ y then .ok (.diffWithinRange base d e)
              else .error (.invalid "max" e.text (.belowMin d)) := by
  rw [Decimal.writes_iff_of_ofText ha] at hx
  rw [Decimal.writes_iff_of_ofText hb] at hy
  subst hx hy
  have hc := Decimal.compares_value d e
  refine ⟨⟨hc.eq_lt, hc.eq_eq, hc.eq_gt⟩, inferInstance, inferInstance, ?_⟩
  intro check request asked hmin hmax
  have hmin : Row.Yields check request.template ⟨"min", .mandatory, .decimal⟩ (.ok (.decimal d)) :=
    yields_decimal hmin ha
  have hmax : Row.Yields check request.template ⟨"max", .mandatory, .decimal⟩ (.ok (.decimal e)) :=
    yields_decimal hmax hb
  constructor
  · have hw : Walk check request.template (table (Rule.range d e).kind)
        (.ok (partsOf (.range d e))) := .step hmin (.step hmax .nil)
    have hf := fst_runFrom_ruleReader hw asked
    simpa only [Rule.kind, checkBounds, ← not_le, ite_not] using hf
  · intro base hbase
    have hbase : Row.Yields check request.template ⟨"base_property", .mandatory, .property⟩
        (.ok (.property base)) :=
      yields_of_gives (fun _ => .property (meansEntity_iff.mpr rfl)) hbase
    have hw : Walk check request.template (table (Rule.diffWithinRange base d e).kind)
        (.ok (partsOf (.diffWithinRange base d e))) := .step hbase (.step hmin (.step hmax .nil))
    have hf := fst_runFrom_ruleReader hw asked
    simpa only [Rule.kind, checkBounds, ← not_le, ite_not] using hf

/-- Two negative bounds of which the one with more digits is the greater one. -/
theorem compare_ofText_negative :
    let d : Decimal := ⟨true, "10", "05", by decide, by decide, by decide, by decide⟩
    let e : Decimal := ⟨true, "10", "045", by decide, by decide, by decide, by decide⟩
    let t : Template := Template.ofName "x" |>.withNamed "min" "-10.05"
      |>.withNamed "max" "-010.0450"
    Decimal.ofText "-10.05" = .ok d ∧ Decimal.ofText "-010.0450" = .ok e ∧
      Writes "-10.05" d.value ∧ Writes "-010.0450" e.value ∧
      t.get? "min" = some "-10.05".toList ∧ t.get? "max" = some "-010.0450".toList ∧
      compare d e = .lt ∧ d.value < e.value ∧
      ((ruleReader (fun _ => .ok ()) .range).runFrom ⟨.instanceOf, t⟩ []).1 =
        .ok (.range d e) := by
  intro d e t
  have hd : Decimal.ofText "-10.05" = .ok d := rfl
  have he : Decimal.ofText "-010.0450" = .ok e := rfl
  have hx := Decimal.writes_of_ofText hd
  have hy := Decimal.writes_of_ofText he
  obtain ⟨⟨hlt, -, -⟩, -, -, hr⟩ := compare_ofText hd he hx hy
  have hv : d.value < e.value := by
    have h10 : Decimal.wholeValue "10" = 10 := rfl
    have h05 : Decimal.wholeValue "05" = 5 ∧ "05".toList.length = 2 := ⟨rfl, rfl⟩
    have h045 : Decimal.wholeValue "045" = 45 ∧ "045".toList.length = 3 := ⟨rfl, rfl⟩
    norm_num [d, e, Decimal.value, Decimal.magnitude, Decimal.fractionValue, h10, h05, h045]
  have hb := (hr (fun _ => .ok ()) ⟨.instanceOf, t⟩ [] rfl rfl).1
  rw [if_pos hv.le] at hb
  exact ⟨hd, he, hx, hy, rfl, rfl, hlt.mpr hv, hv, hb⟩

end WikiAxioms.Catalog
