import WikiAxioms.Catalog.Parameter
import WikiAxioms.Proofs.Markup.Equality

/-!
# Successful readings

What a reader yields is said by what the template gives for the keys that the reader asks for. For
each way to read a parameter there is one equivalence: a reading succeeds with a value, and with
certain keys asked for, exactly when the template gives that value for the key.
-/

namespace WikiAxioms.Catalog

open WikiAxioms.Markup

/-- Another fault in place of the fault changes no success. -/
theorem mapError_eq_ok_iff {ε δ α : Type} {x : Except ε α} {f : ε → δ} {a : α} :
    x.mapError f = .ok a ↔ x = .ok a := by
  cases x with
  | error e => exact ⟨nofun, nofun⟩
  | ok b => exact ⟨fun h => congrArg _ (Except.ok.inj h), fun h => congrArg _ (Except.ok.inj h)⟩

theorem get?_eq_some_iff_mem {t : Template} {key value : Text} :
    t.get? key = some value ↔ (key, value) ∈ t.named.entries :=
  lookup_eq_some_iff_mem t.named.nodup

/-- The keys asked for once `key` has been asked for as well. -/
def note (asked : List Text) (key : Text) : List Text :=
  if asked.contains key then asked else asked ++ [key]

/-- The value of a parameter, if it has one that is not blank. -/
def filled? (t : Template) (key : Text) : Option Text :=
  (t.get? key).filter fun value => !value.isBlank

/-- The template has a value for the key which is not blank and is understood as `a`. -/
def Gives {α : Type} (t : Template) (key : Text) (parse : Text → Except Reason α) (a : α) : Prop :=
  ∃ value, filled? t key = some value ∧ parse value = .ok a

/-- The template gives `a` for the key, or it has nothing but blanks there and `a` stands for
that. -/
def MayGive {α : Type} (t : Template) (key : Text) (parse : Text → Except Reason α)
    (absent a : α) : Prop :=
  filled? t key = none ∧ absent = a ∨ Gives t key parse a

/-- The template has a value for the key, which is understood as `a` unless `a` stands for a blank
one. -/
def GivesOrBlank {α : Type} (t : Template) (key : Text) (parse : Text → Except Reason α)
    (blank a : α) : Prop :=
  (∃ value, t.get? key = some value ∧ value.isBlank = true ∧ blank = a) ∨ Gives t key parse a

theorem filled?_of_get?_eq_some {t : Template} {key value : Text} (h : t.get? key = some value) :
    filled? t key = if value.isBlank then none else some value := by
  cases hb : value.isBlank <;> simp [filled?, h, hb]

/-- A list is read when every entry of it is, and there is one at least. -/
theorem entitiesOf_eq_ok_iff {kind : EntityKind} {value : Text} {ids : List (EntityId kind)} :
    entitiesOf kind value = .ok ids ↔
      (Text.runs isListSeparator value).mapM (entityOf kind) = .ok ids ∧ ids ≠ [] := by
  rw [entitiesOf]
  cases (Text.runs isListSeparator value).mapM (entityOf kind) with
  | error reason => simp
  | ok found =>
    cases found with
    | nil => simp [eq_comm]
    | cons id found =>
      simp only [Except.ok.injEq, iff_self_and]
      rintro rfl
      simp

/-! ## Steps of a reading -/

namespace ParameterReader

variable {α β : Type} {request : Request} {asked asked' : List Text}

@[simp] theorem runFrom_pure (a : α) :
    (pure a : ParameterReader α).runFrom request asked = (.ok a, asked) := rfl

@[simp] theorem runFrom_throw (fault : BuildFault) :
    (throw fault : ParameterReader α).runFrom request asked = (.error fault, asked) := rfl

@[simp] theorem runFrom_look (key : Text) :
    (look key).runFrom request asked = (.ok (request.template.get? key), note asked key) := by
  have h : note asked key = if key ∈ asked then asked else asked ++ [key] := by simp [note]
  rw [h]
  rfl

theorem runFrom_bind (r : ParameterReader α) (f : α → ParameterReader β) :
    (r >>= f).runFrom request asked = match r.runFrom request asked with
      | (.ok a, noted) => (f a).runFrom request noted
      | (.error fault, noted) => (.error fault, noted) := by
  have h : (r >>= f).runFrom request asked =
      ExceptT.bindCont (fun a => (f a).run request) (r.runFrom request asked).1
        (r.runFrom request asked).2 := rfl
  rw [h]
  rcases r.runFrom request asked with ⟨_ | _, _⟩ <;> rfl

/-- A reading in two parts succeeds when both do, the second with the keys of the first noted. -/
theorem runFrom_bind_eq_ok_iff {r : ParameterReader α} {f : α → ParameterReader β} {b : β} :
    (r >>= f).runFrom request asked = (.ok b, asked') ↔
      ∃ a noted, r.runFrom request asked = (.ok a, noted) ∧
        (f a).runFrom request noted = (.ok b, asked') := by
  rw [runFrom_bind]
  rcases r.runFrom request asked with ⟨fault | a, noted⟩
  · simp
  · simp only [Prod.mk.injEq, Except.ok.injEq]
    constructor
    · exact fun h => ⟨a, noted, ⟨rfl, rfl⟩, h⟩
    · rintro ⟨a, noted, ⟨rfl, rfl⟩, h⟩
      exact h

/-! ## Readings of one parameter -/

theorem runFrom_accept (key value : Text) (result : Except Reason α) (request : Request)
    (asked : List Text) :
    (accept key value result).runFrom request asked =
      (result.mapError (.invalid key value), asked) := by
  cases result <;> rfl

theorem runFrom_accept_eq_ok_iff {key value : Text} {result : Except Reason α} {a : α} :
    (accept key value result).runFrom request asked = (.ok a, asked') ↔
      result = .ok a ∧ asked = asked' := by
  cases result <;> simp [accept]

@[simp] theorem runFrom_optional (key : Text) :
    (optional key).runFrom request asked =
      (.ok (filled? request.template key), note asked key) := by
  rw [optional, runFrom_bind, runFrom_look]
  rfl

theorem runFrom_required_eq_ok_iff {key value : Text} :
    (required key).runFrom request asked = (.ok value, asked') ↔
      filled? request.template key = some value ∧ note asked key = asked' := by
  rw [required, runFrom_bind, runFrom_look]
  cases hv : request.template.get? key with
  | none => simp [filled?, hv]
  | some v =>
    rw [filled?_of_get?_eq_some hv]
    cases hb : v.isBlank <;> simp [hb]

/-- A mandatory parameter is read when the template gives it. -/
theorem runFrom_parsed_eq_ok_iff {key : Text} {parse : Text → Except Reason α} {a : α} :
    (parsed key parse).runFrom request asked = (.ok a, asked') ↔
      Gives request.template key parse a ∧ note asked key = asked' := by
  simp only [parsed, Gives, runFrom_bind_eq_ok_iff, runFrom_required_eq_ok_iff,
    runFrom_accept_eq_ok_iff]
  constructor
  · rintro ⟨value, noted, ⟨hv, hn⟩, ha, rfl⟩
    exact ⟨⟨value, hv, ha⟩, hn⟩
  · rintro ⟨⟨value, hv, ha⟩, hn⟩
    exact ⟨value, _, ⟨hv, hn⟩, ha, rfl⟩

theorem runFrom_optionalItem_eq_ok_iff {key : Text} {item : Option ItemId} :
    (optionalItem key).runFrom request asked = (.ok item, asked') ↔
      MayGive request.template key (fun value => (entityOf .item value).map some) none item ∧
        note asked key = asked' := by
  rw [optionalItem, runFrom_bind, runFrom_optional, MayGive, Gives]
  cases hv : filled? request.template key with
  | none => simp
  | some v =>
    simp only [runFrom_bind_eq_ok_iff, runFrom_accept_eq_ok_iff, Option.some.injEq,
      exists_eq_left']
    cases entityOf .item v with
    | error reason => simp [Except.map]
    | ok id =>
      simp only [Except.ok.injEq, runFrom_pure, Prod.mk.injEq]
      constructor
      · rintro ⟨_, _, ⟨rfl, hn⟩, hi, rfl⟩
        exact ⟨.inr (congrArg _ hi), hn⟩
      · rintro ⟨hi | hi, hn⟩
        · cases hi.1
        · exact ⟨id, _, ⟨rfl, hn⟩, Except.ok.inj hi, rfl⟩

theorem runFrom_optionalItems_eq_ok_iff {key : Text} {items : List ItemId} :
    (optionalItems key).runFrom request asked = (.ok items, asked') ↔
      MayGive request.template key (entitiesOf .item) [] items ∧ note asked key = asked' := by
  rw [optionalItems, runFrom_bind, runFrom_optional, MayGive, Gives]
  cases hv : filled? request.template key with
  | none => simp
  | some v => simp [runFrom_accept_eq_ok_iff]

theorem runFrom_propertyList_eq_ok_iff {key : Text} {properties : List PropertyId} :
    (propertyList key).runFrom request asked = (.ok properties, asked') ↔
      GivesOrBlank request.template key (entitiesOf .property) [] properties ∧
        note asked key = asked' := by
  rw [propertyList, runFrom_bind, runFrom_look, GivesOrBlank, Gives]
  cases hv : request.template.get? key with
  | none => simp [filled?, hv]
  | some v =>
    rw [filled?_of_get?_eq_some hv]
    cases hb : v.isBlank <;> simp [hb, runFrom_accept_eq_ok_iff]

end ParameterReader

end WikiAxioms.Catalog
