import WikiAxioms.Compile
import WikiAxioms.Proofs.Catalog.Reading

/-!
# What the standard kinds are declared by

A rule is read from a template that gives each part of it under the key of that part. The standard
registry knows each kind by the name of its template and by no other, so that a compiled
declaration is one that denotes a template of the name of a kind, with the parts of a rule of that
kind as its parameters.
-/

namespace WikiAxioms.Catalog

open WikiAxioms.Markup
open ParameterReader

/-- The keys of the parameters that declare a rule of a kind. -/
def parameterKeys : Kind → List Text
  | .type | .valueType => ["class", "relation"]
  | .singleValue | .uniqueValue | .multiValue | .symmetric | .existingFile => []
  | .inverse => ["property"]
  | .format => ["pattern"]
  | .oneOf => ["values"]
  | .range => ["min", "max"]
  | .diffWithinRange => ["base_property", "min", "max"]
  | .targetRequiredClaim => ["property", "item"]
  | .item => ["property", "item", "exceptions"]
  | .conflictsWith => ["property", "item"]
  | .qualifiers => ["list"]

/-- The template gives two bounds, and they are the right way round. -/
def GivesBounds (t : Template) (min max : Decimal) : Prop :=
  Gives t "min" decimalOf min ∧ Gives t "max" decimalOf max ∧ compare min max ≠ .gt

/-- An item that may be left out. -/
def optionalItemOf (value : Text) : Except Reason (Option ItemId) :=
  (entityOf .item value).map some

/-- The template gives every part of the rule under the key of the part. -/
def GivesRule (check : PatternCheck) (t : Template) : Rule → Prop
  | .type members m | .valueType members m =>
    Gives t "class" (entityOf .item) members ∧ Gives t "relation" membershipOf m
  | .singleValue | .uniqueValue | .multiValue | .symmetric | .existingFile => True
  | .inverse property => Gives t "property" (entityOf .property) property
  | .format pattern => Gives t "pattern" (patternOf check) pattern
  | .oneOf values => Gives t "values" (entitiesOf .item) values
  | .range min max => GivesBounds t min max
  | .diffWithinRange base min max =>
    Gives t "base_property" (entityOf .property) base ∧ GivesBounds t min max
  | .targetRequiredClaim required item =>
    Gives t "property" (entityOf .property) required ∧ MayGive t "item" optionalItemOf none item
  | .item required item exceptions =>
    Gives t "property" (entityOf .property) required ∧ MayGive t "item" optionalItemOf none item ∧
      MayGive t "exceptions" (entitiesOf .item) [] exceptions
  | .conflictsWith conflicting values =>
    Gives t "property" (entityOf .property) conflicting ∧
      MayGive t "item" (entitiesOf .item) [] values
  | .qualifiers allowed => GivesOrBlank t "list" (entitiesOf .property) [] allowed

theorem patternOf_eq_ok_iff {check : PatternCheck} {value pattern : Text} :
    patternOf check value = .ok pattern ↔ value.trim = pattern ∧ check pattern = .ok () := by
  rw [patternOf]
  cases hc : check value.trim with
  | ok u =>
    constructor
    · intro h
      obtain rfl := Except.ok.inj h
      exact ⟨rfl, hc⟩
    · rintro ⟨rfl, -⟩
      rfl
  | error words =>
    constructor
    · intro h
      cases h
    · rintro ⟨rfl, h⟩
      cases hc.symm.trans h

theorem runFrom_bounds_eq_ok_iff {request : Request} {asked asked' : List Text}
    {min max : Decimal} :
    bounds.runFrom request asked = (.ok (min, max), asked') ↔
      GivesBounds request.template min max ∧ note (note asked "min") "max" = asked' := by
  have h (a b : Decimal) (noted : List Text) :
      (do if compare a b = .gt then throw (.invalid "max" b.text (.belowMin a))
          return (a, b) : ParameterReader _).runFrom request noted = (.ok (min, max), asked') ↔
        compare a b ≠ .gt ∧ (a = min ∧ b = max) ∧ noted = asked' := by
    by_cases hg : compare a b = .gt
    · rw [if_pos hg, runFrom_bind, runFrom_throw]
      simp [hg]
    · simp [hg]
  simp only [bounds, decimal, runFrom_bind_eq_ok_iff, runFrom_parsed_eq_ok_iff, h]
  constructor
  · rintro ⟨a, _, ⟨ha, rfl⟩, b, _, ⟨hb, rfl⟩, hc, ⟨rfl, rfl⟩, rfl⟩
    exact ⟨⟨ha, hb, hc⟩, rfl⟩
  · rintro ⟨⟨ha, hb, hc⟩, rfl⟩
    exact ⟨min, _, ⟨ha, rfl⟩, max, _, ⟨hb, rfl⟩, hc, ⟨rfl, rfl⟩, rfl⟩

/-- A rule is read exactly from the templates that declare it, by the keys of its kind. -/
theorem runFrom_ruleReader_eq_ok_iff {check : PatternCheck} {kind : Kind} {request : Request}
    {asked : List Text} {rule : Rule} :
    (ruleReader check kind).runFrom request [] = (.ok rule, asked) ↔
      rule.kind = kind ∧ GivesRule check request.template rule ∧ parameterKeys kind = asked := by
  constructor
  · intro h
    -- kinds with the same number of parameters are read alike, whatever the parameters are
    cases kind <;>
      simp only [ruleReader, item, propertyId, items, membership, runFrom_pure,
        runFrom_bind_eq_ok_iff, runFrom_parsed_eq_ok_iff, runFrom_optionalItem_eq_ok_iff,
        runFrom_optionalItems_eq_ok_iff, runFrom_propertyList_eq_ok_iff, Prod.exists,
        runFrom_bounds_eq_ok_iff, Prod.mk.injEq, Except.ok.injEq] at h
    case singleValue | uniqueValue | multiValue | symmetric | existingFile =>
      obtain ⟨rfl, rfl⟩ := h
      exact ⟨rfl, trivial, rfl⟩
    case inverse | format | oneOf | qualifiers =>
      obtain ⟨_, _, ⟨ha, rfl⟩, rfl, rfl⟩ := h
      exact ⟨rfl, ha, rfl⟩
    case type | valueType | targetRequiredClaim | conflictsWith =>
      obtain ⟨_, _, ⟨ha, rfl⟩, _, _, ⟨hb, rfl⟩, rfl, rfl⟩ := h
      exact ⟨rfl, ⟨ha, hb⟩, rfl⟩
    case range =>
      obtain ⟨_, _, _, ⟨ha, rfl⟩, rfl, rfl⟩ := h
      exact ⟨rfl, ha, rfl⟩
    case diffWithinRange =>
      obtain ⟨_, _, ⟨ha, rfl⟩, _, _, _, ⟨hb, rfl⟩, rfl, rfl⟩ := h
      exact ⟨rfl, ⟨ha, hb⟩, rfl⟩
    case item =>
      obtain ⟨_, _, ⟨ha, rfl⟩, _, _, ⟨hb, rfl⟩, _, _, ⟨hc, rfl⟩, rfl, rfl⟩ := h
      exact ⟨rfl, ⟨ha, hb, hc⟩, rfl⟩
  · rintro ⟨rfl, h, rfl⟩
    cases rule <;>
      simp only [Rule.kind, ruleReader, item, propertyId, items, membership, runFrom_pure,
        runFrom_bind_eq_ok_iff, runFrom_parsed_eq_ok_iff, runFrom_optionalItem_eq_ok_iff,
        runFrom_optionalItems_eq_ok_iff, runFrom_propertyList_eq_ok_iff, Prod.exists,
        runFrom_bounds_eq_ok_iff, Prod.mk.injEq, Except.ok.injEq]
    case singleValue | uniqueValue | multiValue | symmetric | existingFile =>
      exact ⟨trivial, rfl⟩
    case inverse | format | oneOf | qualifiers =>
      exact ⟨_, _, ⟨h, rfl⟩, rfl, rfl⟩
    case type | valueType | targetRequiredClaim | conflictsWith =>
      exact ⟨_, _, ⟨h.1, rfl⟩, _, _, ⟨h.2, rfl⟩, rfl, rfl⟩
    case range =>
      exact ⟨_, _, _, ⟨h, rfl⟩, rfl, rfl⟩
    case diffWithinRange =>
      exact ⟨_, _, ⟨h.1, rfl⟩, _, _, _, ⟨h.2, rfl⟩, rfl, rfl⟩
    case item =>
      exact ⟨_, _, ⟨h.1, rfl⟩, _, _, ⟨h.2.1, rfl⟩, _, _, ⟨h.2.2, rfl⟩, rfl, rfl⟩

/-! ## The standard registry -/

theorem mem_all (kind : Kind) : kind ∈ Kind.all := by
  cases kind <;> decide

theorem nodup_templateName : (Kind.all.map Kind.templateName).Nodup := by decide +kernel

/-- The names of the kinds are in the spelling under which names are looked up. -/
theorem normalizeName_templateName (kind : Kind) :
    normalizeName kind.templateName = kind.templateName := by
  cases kind <;> decide +kernel

theorem normalizeName_titleOf (kind : Kind) : normalizeName (titleOf kind) = kind.templateName := by
  cases kind <;> decide +kernel

namespace Registry

/-- Kinds are registered under their own names. -/
theorem foldl_register (entryOf : Kind → Entry) (kinds : List Kind) (r : Registry) :
    kinds.foldl (fun r kind => (r.register kind.templateName (entryOf kind)).2) r =
      ⟨(kinds.map fun kind => (kind.templateName, entryOf kind)).foldl
        (fun es e => setEntry e.1 e.2 es) r.entries, r.policy⟩ := by
  induction kinds generalizing r with
  | nil => rfl
  | cons kind kinds ih =>
    rw [List.foldl_cons, ih, register_eq, normalizeName_templateName]
    rfl

/-- Entries for different kinds stand one after another. -/
theorem foldl_register_of_nodup (entryOf : Kind → Entry) (kinds : List Kind) (r : Registry)
    (h : (r.entries.map Prod.fst ++ kinds.map Kind.templateName).Nodup) :
    kinds.foldl (fun r kind => (r.register kind.templateName (entryOf kind)).2) r =
      ⟨r.entries ++ kinds.map fun kind => (kind.templateName, entryOf kind), r.policy⟩ := by
  rw [foldl_register, foldl_setEntry]
  rwa [List.map_append, List.map_map]

theorem standard_eq (check : PatternCheck) (policy : Policy) : standard check policy =
    ⟨Kind.all.map fun kind => (kind.templateName, standardEntry check kind), policy⟩ :=
  foldl_register_of_nodup _ _ _ nodup_templateName

/-- Every standard kind is found by its name, and nothing else is found. -/
theorem find?_standard_eq_some_iff {check : PatternCheck} {policy : Policy} {name : Text}
    {entry : Entry} :
    (standard check policy).find? name = some entry ↔
      ∃ kind, normalizeName name = kind.templateName ∧ standardEntry check kind = entry := by
  have h : ((Kind.all.map fun kind => (kind.templateName, standardEntry check kind)).map
      Prod.fst).Nodup := by
    rw [List.map_map]
    exact nodup_templateName
  rw [find?, standard_eq, lookup_eq_some_iff_mem h]
  simp [mem_all, eq_comm]

end Registry

/-! ## Compiling -/

/-- A policy changes no constraint; it only refuses some. -/
theorem fst_apply_eq_ok_iff {policy : Policy} {request : Request} {keys : List Text}
    {c c' : Constraint} :
    (policy.apply request keys c).1 = .ok c' ↔ c = c' ∧ (policy = .reject → keys = []) := by
  cases policy <;> cases keys <;> simp [Policy.apply]

variable {check : PatternCheck} {policy : Policy} {property : PropertyId} {t : Template}
  {c : Constraint}

theorem policy_standard : (Registry.standard check policy).policy = policy := by
  rw [Registry.standard_eq]

/-- From a template under the name of a kind that gives a rule of the kind, the constraint is built
that has this rule, as far as the policy allows for the other parameters. -/
theorem build_standard (hn : normalizeName t.name = c.kind.templateName)
    (hg : GivesRule check t c.rule) :
    (Registry.standard check policy).build c.property t =
      policy.apply ⟨c.property, t⟩ (unrecognized t (parameterKeys c.kind)) c := by
  have hf : (Registry.standard check policy).find? t.name = some (standardEntry check c.kind) :=
    Registry.find?_standard_eq_some_iff.mpr ⟨c.kind, hn, rfl⟩
  have hr : (standardEntry check c.kind).build.runFrom ⟨c.property, t⟩ [] =
      (.ok c.rule, parameterKeys c.kind) :=
    runFrom_ruleReader_eq_ok_iff.mpr ⟨rfl, hg, rfl⟩
  rw [Registry.build, hf]
  simp only [hr, policy_standard]

/-- A standard constraint is built exactly from the templates under the name of its kind which give
its rule; where it is asked for, they give nothing else. -/
theorem fst_build_standard_eq_ok_iff :
    ((Registry.standard check policy).build property t).1 = .ok c ↔
      c.property = property ∧ normalizeName t.name = c.kind.templateName ∧
        GivesRule check t c.rule ∧
        (policy = .reject → unrecognized t (parameterKeys c.kind) = []) := by
  constructor
  · intro h
    rw [Registry.build] at h
    cases hf : (Registry.standard check policy).find? t.name with
    | none => simp [hf] at h
    | some entry =>
      obtain ⟨kind, hn, rfl⟩ := Registry.find?_standard_eq_some_iff.mp hf
      rcases hr : (standardEntry check kind).build.runFrom ⟨property, t⟩ [] with
        ⟨fault | rule, asked⟩
      · simp [hf, hr] at h
      · simp only [hf, hr, policy_standard] at h
        obtain ⟨rfl, hu⟩ := fst_apply_eq_ok_iff.mp h
        obtain ⟨rfl, hg, rfl⟩ := runFrom_ruleReader_eq_ok_iff.mp hr
        exact ⟨rfl, hn, hg, hu⟩
  · rintro ⟨rfl, hn, hg, hu⟩
    rw [build_standard hn hg]
    exact fst_apply_eq_ok_iff.mpr ⟨rfl, hu⟩

/-- A declaration that reads as a template is compiled by building the template. -/
theorem compile_of_ofText_eq_ok {r : Registry} {declaration : Text}
    (h : Template.ofText declaration = .ok t) :
    compile r property declaration =
      ((r.build property t).1.mapError .building, (r.build property t).2) := by
  rw [compile, h]

/-- A standard constraint comes out of a declaration exactly when the declaration reads as a
template that builds it. -/
theorem fst_compile_standard_eq_ok_iff {declaration : Text} :
    (compile (Registry.standard check policy) property declaration).1 = .ok c ↔
      ∃ t, Template.ofText declaration = .ok t ∧
        ((Registry.standard check policy).build property t).1 = .ok c := by
  cases h : Template.ofText declaration with
  | error fault => simp [compile, h]
  | ok t =>
    rw [compile_of_ofText_eq_ok h]
    simp only [Except.ok.injEq, exists_eq_left', mapError_eq_ok_iff]

end WikiAxioms.Catalog
