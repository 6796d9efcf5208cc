import WikiAxioms.Proofs.Catalog.Standard

/-!
# What a policy changes

A policy has a say only after a rule was read, and only in what becomes of the parameters that the
kind does not have. So the result of building under `ignore` determines the results and the warnings
under the other policies. Which parameters a kind has is said by `parameterKeys`; that a reader asks
for all of them before it succeeds, absent and blank ones too, is what makes `reject` safe.
-/

namespace WikiAxioms.Catalog

open WikiAxioms.Markup

/-- The parameters of a template that rules of a kind do not have: named ones in order, then every
positional one under its number. -/
def superfluous (t : Template) (kind : Kind) : List Text :=
  t.named.keys.filter (!(parameterKeys kind).contains ·) ++
    (List.range t.positional.length).map fun i => '#' :: Text.ofNat (i + 1)

/-- What is rejected first, if there is anything to reject. -/
def rejection (c : Constraint) : List Text → Except BuildFault Constraint
  | [] => .ok c
  | key :: _ => .error (.unexpected key)

theorem unrecognized_parameterKeys (t : Template) (kind : Kind) :
    unrecognized t (parameterKeys kind) = superfluous t kind :=
  rfl

theorem apply_ignore (request : Request) (keys : List Text) (c : Constraint) :
    Policy.apply .ignore request keys c = (.ok c, []) := by
  cases keys <;> rfl

theorem apply_warn (request : Request) (keys : List Text) (c : Constraint) :
    Policy.apply .warn request keys c =
      (.ok c, keys.map (.unrecognizedParameter request.property request.template.name)) := by
  cases keys <;> rfl

theorem apply_reject (request : Request) (keys : List Text) (c : Constraint) :
    Policy.apply .reject request keys c = (rejection c keys, []) := by
  cases keys <;> rfl

variable {check : PatternCheck} {property : PropertyId} {t : Template}

/-- Whether there is an entry for a name, and which, is the same under all policies. -/
theorem find?_standard_eq (policy policy' : Policy) (name : Text) :
    (Registry.standard check policy).find? name = (Registry.standard check policy').find? name := by
  rw [Registry.find?, Registry.find?, Registry.standard_eq, Registry.standard_eq]

/-- A template that yields no rule has the same fault under every policy. -/
theorem build_standard_of_error {fault : BuildFault}
    (h : ((Registry.standard check .ignore).build property t).1 = .error fault) (policy : Policy) :
    (Registry.standard check policy).build property t = (.error fault, []) := by
  rw [Registry.build] at h ⊢
  rw [find?_standard_eq policy .ignore]
  cases hf : (Registry.standard check .ignore).find? t.name with
  | none =>
    simp only [hf, Except.error.injEq] at h
    rw [h]
  | some entry =>
    rcases hr : entry.build.runFrom ⟨property, t⟩ [] with ⟨fault' | rule, asked⟩
    · simp only [hf, hr, Except.error.injEq] at h
      simp only [hr, h]
    · -- once a rule is read, nothing fails under `ignore`
      simp only [hf, hr, policy_standard, apply_ignore] at h
      cases h

/-- A template that yields a rule yields the same one under every policy, and superfluous parameters
are all that is left to decide about. -/
theorem build_standard_of_ok {c : Constraint}
    (h : ((Registry.standard check .ignore).build property t).1 = .ok c) :
    normalizeName t.name = c.kind.templateName ∧
      (ruleReader check c.kind).runFrom ⟨property, t⟩ [] = (.ok c.rule, parameterKeys c.kind) ∧
      ∀ policy, (Registry.standard check policy).build property t =
        policy.apply ⟨property, t⟩ (superfluous t c.kind) c := by
  obtain ⟨rfl, hn, hg, -⟩ := fst_build_standard_eq_ok_iff.mp h
  refine ⟨hn, runFrom_ruleReader_eq_ok_iff.mpr ⟨rfl, hg, rfl⟩, fun policy => ?_⟩
  rw [build_standard hn hg, unrecognized_parameterKeys]

/-- Under `ignore` a template is built without regard to superfluous parameters; the other policies
build the same, and warn of these or refuse the first of them. By then every parameter of the kind
has been asked for. -/
theorem build_standard_filters (check : PatternCheck) (property : PropertyId) (t : Template) :
    match (Registry.standard check .ignore).build property t with
    | (.error fault, warnings) => warnings = [] ∧ ∀ policy,
        (Registry.standard check policy).build property t = (.error fault, [])
    | (.ok c, warnings) => warnings = [] ∧ normalizeName t.name = c.kind.templateName ∧
        (ruleReader check c.kind).runFrom ⟨property, t⟩ [] = (.ok c.rule, parameterKeys c.kind) ∧
        (Registry.standard check .warn).build property t =
          (.ok c, (superfluous t c.kind).map (.unrecognizedParameter property t.name)) ∧
        (Registry.standard check .reject).build property t =
          (rejection c (superfluous t c.kind), []) := by
  rcases h : (Registry.standard check .ignore).build property t with ⟨fault | c, warnings⟩
  · have hb := build_standard_of_error (congrArg Prod.fst h)
    refine ⟨?_, hb⟩
    rw [hb .ignore] at h
    exact (Prod.mk.inj h).2.symm
  · obtain ⟨hn, hr, hb⟩ := build_standard_of_ok (congrArg Prod.fst h)
    refine ⟨?_, hn, hr, ?_, ?_⟩
    · rw [hb .ignore, apply_ignore] at h
      exact (Prod.mk.inj h).2.symm
    · rw [hb .warn, apply_warn]
    · rw [hb .reject, apply_reject]

end WikiAxioms.Catalog
