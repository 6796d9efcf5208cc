import WikiAxioms.Proofs.Catalog.Policy
import WikiAxioms.Proofs.Markup.Reordering

/-!
# Templates that agree

A rule is read from what a template gives for keys, so the order of its arguments plays no part in
what is built. It decides in which order superfluous parameters are found, and which of them is
refused, but not whether there are any.
-/

namespace WikiAxioms.Catalog

open WikiAxioms.Markup

/-! ## Readers -/

namespace ParameterReader

variable {α β : Type}

/-- A reader that uses nothing of a template but what it gives for keys. -/
def IsKeyed (r : ParameterReader α) : Prop :=
  ∀ ⦃t u : Template⦄, (∀ key, t.get? key = u.get? key) → ∀ property asked,
    r.runFrom ⟨property, t⟩ asked = r.runFrom ⟨property, u⟩ asked

theorem isKeyed_pure (a : α) : IsKeyed (pure a) := fun _ _ _ _ _ => rfl

theorem isKeyed_throw (fault : BuildFault) : IsKeyed (throw fault : ParameterReader α) :=
  fun _ _ _ _ _ => rfl

theorem isKeyed_look (key : Text) : IsKeyed (look key) := by
  intro t u h property asked
  rw [runFrom_look, runFrom_look, h]

theorem IsKeyed.bind {r : ParameterReader α} {f : α → ParameterReader β} (hr : r.IsKeyed)
    (hf : ∀ a, (f a).IsKeyed) : (r >>= f).IsKeyed := by
  intro t u h property asked
  rw [runFrom_bind, runFrom_bind, hr h property asked]
  rcases r.runFrom ⟨property, u⟩ asked with ⟨fault | a, noted⟩
  · rfl
  · exact hf a h property noted

theorem isKeyed_accept (key value : Text) (result : Except Reason α) :
    IsKeyed (accept key value result) := by
  cases result with
  | ok a => exact isKeyed_pure a
  | error reason => exact isKeyed_throw _

theorem isKeyed_optional (key : Text) : IsKeyed (optional key) :=
  (isKeyed_look key).bind fun _ => isKeyed_pure _

theorem isKeyed_required (key : Text) : IsKeyed (required key) := by
  refine (isKeyed_look key).bind fun value => ?_
  cases value with
  | none => exact isKeyed_throw _
  | some value =>
    dsimp only
    split
    · exact isKeyed_throw _
    · exact isKeyed_pure _

theorem isKeyed_parsed (key : Text) (parse : Text → Except Reason α) :
    IsKeyed (parsed key parse) :=
  (isKeyed_required key).bind fun value => isKeyed_accept key value _

theorem isKeyed_optionalItem (key : Text) : IsKeyed (optionalItem key) := by
  refine (isKeyed_optional key).bind fun value => ?_
  cases value with
  | none => exact isKeyed_pure _
  | some value => exact (isKeyed_accept key value _).bind fun _ => isKeyed_pure _

theorem isKeyed_optionalItems (key : Text) : IsKeyed (optionalItems key) := by
  refine (isKeyed_optional key).bind fun value => ?_
  cases value with
  | none => exact isKeyed_pure _
  | some value => exact isKeyed_accept key value _

theorem isKeyed_propertyList (key : Text) : IsKeyed (propertyList key) := by
  refine (isKeyed_look key).bind fun value => ?_
  cases value with
  | none => exact isKeyed_throw _
  | some value =>
    dsimp only
    split
    · exact isKeyed_pure _
    · exact isKeyed_accept key value _

theorem isKeyed_bounds : IsKeyed bounds := by
  refine (isKeyed_parsed "min" _).bind fun min => (isKeyed_parsed "max" _).bind fun max => ?_
  split
  · exact (isKeyed_throw _).bind fun _ => isKeyed_pure _
  · exact isKeyed_pure _

/-- Rules are read by key. -/
theorem isKeyed_ruleReader (check : PatternCheck) (kind : Kind) :
    IsKeyed (ruleReader check kind) := by
  cases kind with
  | type | valueType =>
    exact (isKeyed_parsed _ _).bind fun _ => (isKeyed_parsed _ _).bind fun _ => isKeyed_pure _
  | singleValue | uniqueValue | multiValue | symmetric | existingFile => exact isKeyed_pure _
  | inverse | format | oneOf => exact (isKeyed_parsed _ _).bind fun _ => isKeyed_pure _
  | range => exact isKeyed_bounds.bind fun _ => isKeyed_pure _
  | diffWithinRange =>
    exact (isKeyed_parsed _ _).bind fun _ => isKeyed_bounds.bind fun _ => isKeyed_pure _
  | targetRequiredClaim =>
    exact (isKeyed_parsed _ _).bind fun _ => (isKeyed_optionalItem _).bind fun _ => isKeyed_pure _
  | item =>
    exact (isKeyed_parsed _ _).bind fun _ => (isKeyed_optionalItem _).bind fun _ =>
      (isKeyed_optionalItems _).bind fun _ => isKeyed_pure _
  | conflictsWith =>
    exact (isKeyed_parsed _ _).bind fun _ => (isKeyed_optionalItems _).bind fun _ =>
      isKeyed_pure _
  | qualifiers => exact (isKeyed_propertyList _).bind fun _ => isKeyed_pure _

end ParameterReader

/-! ## Building -/

variable {check : PatternCheck} {property : PropertyId} {t u : Template}

/-- Parameters are superfluous in the one template if they are in the other. -/
theorem superfluous_perm (h : t.Agrees u) (kind : Kind) :
    (superfluous t kind).Perm (superfluous u kind) := by
  rw [superfluous, superfluous, h.positional]
  exact ((h.named.map Prod.fst).filter _).append_right _

theorem build_ignore_eq_of_agrees (h : t.Agrees u) :
    (Registry.standard check .ignore).build property t =
      (Registry.standard check .ignore).build property u := by
  rw [Registry.build, Registry.build, h.name]
  cases hf : (Registry.standard check .ignore).find? u.name with
  | none => rfl
  | some entry =>
    obtain ⟨kind, -, rfl⟩ := Registry.find?_standard_eq_some_iff.mp hf
    have hr : (standardEntry check kind).build.runFrom ⟨property, t⟩ [] =
        (standardEntry check kind).build.runFrom ⟨property, u⟩ [] :=
      ParameterReader.isKeyed_ruleReader check kind h.get? property []
    simp only [hr, policy_standard, apply_ignore]

/-- Both results are the same success, or both are failures. -/
inductive SucceedAlike {ε α : Type} : Except ε α → Except ε α → Prop
  | ok (a : α) : SucceedAlike (.ok a) (.ok a)
  | error (e e' : ε) : SucceedAlike (.error e) (.error e')

theorem SucceedAlike.mapError {ε δ α : Type} {x y : Except ε α} (h : SucceedAlike x y)
    (f : ε → δ) : SucceedAlike (x.mapError f) (y.mapError f) := by
  cases h with
  | ok a => exact .ok a
  | error e e' => exact .error (f e) (f e')

theorem succeedAlike_rejection {keys keys' : List Text} (h : keys.Perm keys') (c : Constraint) :
    SucceedAlike (rejection c keys) (rejection c keys') := by
  cases keys with
  | nil =>
    obtain rfl := h.nil_eq
    exact .ok c
  | cons key keys =>
    cases keys' with
    | nil => exact absurd h.length_eq (by simp)
    | cons key' keys' => exact .error _ _

/-- What the order of arguments can change: which superfluous parameter is refused, and in which
order there are warnings of them. -/
structure BuiltAlike {ε α : Type} (run run' : Policy → Except ε α × List Warning) : Prop where
  ignore : run .ignore = run' .ignore
  warn : (run .warn).1 = (run' .warn).1
  warnings : (run .warn).2.Perm (run' .warn).2
  reject : SucceedAlike (run .reject).1 (run' .reject).1

namespace BuiltAlike

theorem of_error {ε α : Type} {run run' : Policy → Except ε α × List Warning} {fault : ε}
    (h : ∀ policy, run policy = (.error fault, []))
    (h' : ∀ policy, run' policy = (.error fault, [])) : BuiltAlike run run' where
  ignore := by rw [h, h']
  warn := by rw [h, h']
  warnings := by rw [h, h']
  reject := by
    rw [h, h']
    exact .error fault fault

theorem of_apply {run run' : Policy → Except BuildFault Constraint × List Warning}
    (hn : t.name = u.name) {keys keys' : List Text} (hk : keys.Perm keys') {c : Constraint}
    (h : ∀ policy, run policy = policy.apply ⟨property, t⟩ keys c)
    (h' : ∀ policy, run' policy = policy.apply ⟨property, u⟩ keys' c) : BuiltAlike run run' where
  ignore := by rw [h, h', apply_ignore, apply_ignore]
  warn := by rw [h, h', apply_warn, apply_warn]
  warnings := by
    rw [h, h', apply_warn, apply_warn, hn]
    exact hk.map _
  reject := by
    rw [h, h', apply_reject, apply_reject]
    exact succeedAlike_rejection hk c

theorem mapError {ε δ α : Type} {run run' : Policy → Except ε α × List Warning}
    (h : BuiltAlike run run') (f : ε → δ) :
    BuiltAlike (fun policy => ((run policy).1.mapError f, (run policy).2))
      (fun policy => ((run' policy).1.mapError f, (run' policy).2)) where
  ignore := by rw [h.ignore]
  warn := by rw [h.warn]
  warnings := h.warnings
  reject := h.reject.mapError f

end BuiltAlike

/-- Templates that agree are built alike. -/
theorem builtAlike_build (h : t.Agrees u) (check : PatternCheck) (property : PropertyId) :
    BuiltAlike (fun policy => (Registry.standard check policy).build property t)
      (fun policy => (Registry.standard check policy).build property u) := by
  have hi : ((Registry.standard check .ignore).build property t).1 =
      ((Registry.standard check .ignore).build property u).1 :=
    congrArg Prod.fst (build_ignore_eq_of_agrees h)
  cases ht : ((Registry.standard check .ignore).build property t).1 with
  | error fault =>
    exact .of_error (build_standard_of_error ht) (build_standard_of_error (hi.symm.trans ht))
  | ok c =>
    obtain ⟨-, -, hbt⟩ := build_standard_of_ok ht
    obtain ⟨-, -, hbu⟩ := build_standard_of_ok (hi.symm.trans ht)
    exact .of_apply h.name (superfluous_perm h c.kind) hbt hbu

/-! ## Compiling -/

/-- Declarations are compiled alike when the templates that they read as are built alike. -/
theorem BuiltAlike.compile {registry : Policy → Registry} {declaration declaration' : Text}
    (ht : Template.ofText declaration = .ok t) (hu : Template.ofText declaration' = .ok u)
    (h : BuiltAlike (fun policy => (registry policy).build property t)
      (fun policy => (registry policy).build property u)) :
    BuiltAlike (fun policy => compile (registry policy) property declaration)
      (fun policy => compile (registry policy) property declaration') := by
  simp only [compile_of_ofText_eq_ok ht, compile_of_ofText_eq_ok hu]
  exact h.mapError CompileFault.building

/-- A declaration with its fields in another order is refused as well, or it reads as an equal
template and declares the same constraint or no constraint either. -/
theorem compile_reordered {name : Text} {fs gs : List Text} (hn : IsSelfContained name)
    (hf : ∀ f ∈ fs, IsSelfContained f) (h : IsReordering fs gs) :
    let declaration := declarationText name fs
    let declaration' := declarationText name gs
    (∃ fault fault', Template.ofText declaration = .error fault ∧
      Template.ofText declaration' = .error fault') ∨
    (∃ t u, Template.ofText declaration = .ok t ∧ Template.ofText declaration' = .ok u ∧
      (t == u) = true) ∧
    ∀ (check : PatternCheck) (property : PropertyId), BuiltAlike
      (fun policy => compile (Registry.standard check policy) property declaration)
      (fun policy => compile (Registry.standard check policy) property declaration') := by
  intro declaration declaration'
  rcases ofText_reordered (List.forall_mem_cons.mpr ⟨hn, hf⟩) h with hfault | ⟨t, u, ht, hu, ha⟩
  · exact .inl hfault
  · exact .inr ⟨⟨t, u, ht, hu, Template.beq_iff_agrees.mpr ha⟩, fun check property =>
      (builtAlike_build ha check property).compile ht hu⟩

/-- A repeated key, a link with a separator and two positional values, moved about. -/
theorem compile_reordered_item :
    let name : Text := "constraint: item"
    let fs : List Text := ["property=P31", "one", "item= [[Q5|human]]", "property=P21", "two"]
    let gs : List Text := ["one", "property=P31", "property=P21", "two", "item= [[Q5|human]]"]
    let declaration := declarationText name fs
    let declaration' := declarationText name gs
    IsSelfContained name ∧ (∀ f ∈ fs, IsSelfContained f) ∧ IsReordering fs gs ∧
      (∃ t u, Template.ofText declaration = .ok t ∧ Template.ofText declaration' = .ok u ∧
        (t == u) = true) ∧
      ∀ (check : PatternCheck) (property : PropertyId), BuiltAlike
        (fun policy => compile (Registry.standard check policy) property declaration)
        (fun policy => compile (Registry.standard check policy) property declaration') := by
  intro name fs gs declaration declaration'
  have hn : IsSelfContained name := by decide +kernel
  have hf : ∀ f ∈ fs, IsSelfContained f := by decide +kernel
  have h : IsReordering fs gs := by decide +kernel
  refine ⟨hn, hf, h, ?_⟩
  rcases compile_reordered hn hf h with ⟨fault, _, hfault, -⟩ | halike
  · have hread : (Template.ofText declaration).toOption.isSome = true := by decide +kernel
    rw [hfault] at hread
    cases hread
  · exact halike

end WikiAxioms.Catalog
