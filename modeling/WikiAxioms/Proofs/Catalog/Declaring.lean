import WikiAxioms.Proofs.Catalog.WellFormed
import WikiAxioms.Proofs.Markup.RoundTrip
import WikiAxioms.Proofs.Text.Runs

/-!
# Declaring constraints

Every well-formed constraint has a declaration: the template of its kind with a parameter for each
part of its rule. The declaration, written out and compiled, yields the constraint.
-/

namespace WikiAxioms.Catalog

open WikiAxioms.Markup

variable {kind : EntityKind}

/-! ## Values -/

/-- A trimmed text without markers. -/
structure IsBare (v : Text) : Prop where
  trimmed : v.trim = v
  noAngle : '<' ∉ v

/-- Identifiers as they are listed in a value. -/
def listText (ids : List (EntityId kind)) : Text := Text.join ", " (ids.map EntityId.text)

theorem isBare_entity (id : EntityId kind) : IsBare id.text := by
  refine ⟨id.trim_text, fun hm => ?_⟩
  rcases EntityId.isDigit_of_mem_text hm with h | h
  · cases kind <;> cases h
  · cases h

theorem isBare_decimal (d : Decimal) : IsBare d.text := by
  refine ⟨d.trim_text, fun hm => ?_⟩
  rcases Decimal.isDigit_of_mem_text hm with h | h | h <;> cases h

theorem isBare_keyword (m : Membership) : IsBare m.keyword := by
  cases m <;> exact ⟨by decide, by decide⟩

theorem isBare_listText (ids : List (EntityId kind)) : IsBare (listText ids) := by
  constructor
  · refine Text.trim_join _ fun w hw => ?_
    obtain ⟨id, -, rfl⟩ := List.mem_map.mp hw
    exact ⟨by simp [EntityId.text], id.trim_text⟩
  · intro hm
    rcases Text.mem_join hm with h | ⟨w, hw, h⟩
    · simp at h
    · obtain ⟨id, -, rfl⟩ := List.mem_map.mp hw
      exact (isBare_entity id).noAngle h

theorem IsBare.isValueText {v : Text} (h : IsBare v) : IsValueText v :=
  ⟨.inr h.trimmed, fun hi => h.noAngle (hi.subset (by simp [nowikiClosing]))⟩

theorem IsBare.not_isInfix {v : Text} (h : IsBare v) : ¬ nowikiOpening <:+: v :=
  fun hi => h.noAngle (hi.subset (by simp [nowikiOpening]))

theorem entityOf_text (id : EntityId kind) : entityOf kind id.text = .ok id := by
  have ha : Text.after? id.text ['[', '['] = none := by
    rw [EntityId.text]
    cases kind <;> rfl
  have hu : unlink id.text = id.text := by
    rw [unlink, id.trim_text, ha]
    exact id.trim_text
  rw [entityOf, hu, EntityId.ofText_text]
  rfl

theorem decimalOf_text (d : Decimal) : decimalOf d.text = .ok d := by
  rw [decimalOf, Decimal.ofText_text]
  rfl

theorem membershipOf_keyword (m : Membership) : membershipOf m.keyword = .ok m := by
  rw [membershipOf, (isBare_keyword m).trimmed]
  cases m <;> rfl

theorem isListSeparator_of_mem_text {id : EntityId kind} {c : Char} (h : c ∈ id.text) :
    isListSeparator c = false := by
  have hs := EntityId.isSpace_of_mem_text h
  have hc : c ≠ ',' := by
    rintro rfl
    rcases EntityId.isDigit_of_mem_text h with h | h
    · cases kind <;> cases h
    · cases h
  simp [isListSeparator, hs, hc]

/-- The entries of a listing are the identifiers listed. -/
theorem runs_listText (ids : List (EntityId kind)) :
    Text.runs isListSeparator (listText ids) = ids.map EntityId.text := by
  have hs : ∀ c ∈ (", " : Text), isListSeparator c = true := List.all_eq_true.mp (by decide)
  refine Text.runs_join (fun w hw => ?_) hs (by decide)
  obtain ⟨id, -, rfl⟩ := List.mem_map.mp hw
  exact ⟨by simp [EntityId.text], fun c => isListSeparator_of_mem_text⟩

theorem entitiesOf_listText {ids : List (EntityId kind)} (h : ids ≠ []) :
    entitiesOf kind (listText ids) = .ok ids := by
  refine entitiesOf_eq_ok_iff.mpr ⟨?_, h⟩
  rw [runs_listText]
  clear h
  induction ids with
  | nil => rfl
  | cons id ids ih =>
    rw [List.map_cons, List.mapM_cons, entityOf_text, ih]
    rfl

theorem listText_singleton (id : EntityId kind) : listText [id] = id.text := by
  simp [listText, Text.join]

/-! ## Parameters -/

/-- A parameter that is left out when there is nothing to list. -/
def optionalParameter (key : Text) (ids : List ItemId) : List (Text × Text) :=
  if ids = [] then [] else [(key, listText ids)]

/-- The parameters that declare a rule, in the order in which they are read. -/
def parameters : Rule → List (Text × Text)
  | .type members m | .valueType members m => [("class", members.text), ("relation", m.keyword)]
  | .singleValue | .uniqueValue | .multiValue | .symmetric | .existingFile => []
  | .inverse property => [("property", property.text)]
  | .format pattern => [("pattern", pattern)]
  | .oneOf values => [("values", listText values)]
  | .range min max => [("min", min.text), ("max", max.text)]
  | .diffWithinRange base min max =>
    [("base_property", base.text), ("min", min.text), ("max", max.text)]
  | .targetRequiredClaim required item =>
    ("property", required.text) :: optionalParameter "item" item.toList
  | .item required item exceptions =>
    ("property", required.text) ::
      (optionalParameter "item" item.toList ++ optionalParameter "exceptions" exceptions)
  | .conflictsWith conflicting values =>
    ("property", conflicting.text) :: optionalParameter "item" values
  | .qualifiers allowed => [("list", listText allowed)]

theorem mem_optionalParameter {key key' value : Text} {ids : List ItemId} :
    (key', value) ∈ optionalParameter key ids ↔ ids ≠ [] ∧ key' = key ∧ value = listText ids := by
  rw [optionalParameter]
  split <;> simp_all

theorem keys_optionalParameter_sublist (key : Text) (ids : List ItemId) :
    ((optionalParameter key ids).map Prod.fst).Sublist [key] := by
  rw [optionalParameter]
  split <;> simp

/-- A rule has no other parameters than those of its kind, each at most once. -/
theorem keys_parameters_sublist (rule : Rule) :
    ((parameters rule).map Prod.fst).Sublist (parameterKeys rule.kind) := by
  cases rule with
  | targetRequiredClaim required item =>
    exact (keys_optionalParameter_sublist "item" item.toList).cons_cons _
  | item required item exceptions =>
    have h := (keys_optionalParameter_sublist "item" item.toList).append
      (keys_optionalParameter_sublist "exceptions" exceptions)
    rw [← List.map_append] at h
    exact h.cons_cons _
  | conflictsWith conflicting values =>
    exact (keys_optionalParameter_sublist "item" values).cons_cons _
  | _ => exact .refl _

theorem nodup_parameters (rule : Rule) : ((parameters rule).map Prod.fst).Nodup := by
  refine (keys_parameters_sublist rule).nodup ?_
  cases rule.kind <;> decide

/-- The template that declares a rule. -/
def declaring (rule : Rule) : Template :=
  ⟨titleOf rule.kind, [], ⟨parameters rule, nodup_parameters rule⟩⟩

/-! ## Reading a declaration back -/

/-- Whether a text is trimmed and free of the characters that mean something in a declaration. -/
def isUnmarked (t : Text) : Bool :=
  t ≠ [] && t.trim = t && t.all fun c => c ∉ ['\x7b', '\x7d', '|', '=', '[', '<']

theorem isKeyText_of_isUnmarked {t : Text} (h : isUnmarked t = true) : IsKeyText t := by
  rw [isUnmarked, Bool.and_eq_true, Bool.and_eq_true, List.all_eq_true] at h
  obtain ⟨⟨hn, ht⟩, hc⟩ := h
  have hc : ∀ c ∈ t, c ∉ ['\x7b', '\x7d', '|', '=', '[', '<'] := fun c hm =>
    of_decide_eq_true (hc c hm)
  constructor
  · constructor
    · exact of_decide_eq_true hn
    · exact of_decide_eq_true ht
    · intro c hm
      have h := hc c hm
      simp only [List.mem_cons, not_or] at h
      exact ⟨h.1, h.2.1, h.2.2.1⟩
    · exact fun h => hc '[' (h.subset (by simp)) (by simp)
    · exact fun h => hc '<' (h.subset (by simp [nowikiOpening])) (by simp)
  · exact fun h => hc '=' h (by simp)

theorem isNameText_titleOf (kind : Kind) : IsNameText (titleOf kind) := by
  have h : isUnmarked (titleOf kind) = true := by
    cases kind <;> decide +kernel
  exact (isKeyText_of_isUnmarked h).toIsNameText

theorem isKeyText_of_mem {kind : Kind} {key : Text} (h : key ∈ parameterKeys kind) :
    IsKeyText key := by
  have hd : (parameterKeys kind).all isUnmarked = true := by
    cases kind <;> decide +kernel
  exact isKeyText_of_isUnmarked (List.all_eq_true.mp hd key h)

/-- Only a pattern can hold anything that has to be taken care of. -/
theorem isBare_of_mem_parameters {rule : Rule} (hr : ∀ pattern, rule ≠ .format pattern)
    {key value : Text} (h : (key, value) ∈ parameters rule) : IsBare value := by
  cases rule <;>
    simp only [parameters, List.mem_cons, List.mem_append, mem_optionalParameter, Prod.mk.injEq,
      List.not_mem_nil, or_false] at h
  case format pattern => exact absurd rfl (hr pattern)
  case inverse =>
    rw [h.2]
    exact isBare_entity _
  case oneOf | qualifiers =>
    rw [h.2]
    exact isBare_listText _
  case type | valueType =>
    rcases h with ⟨-, rfl⟩ | ⟨-, rfl⟩
    · exact isBare_entity _
    · exact isBare_keyword _
  case range =>
    rcases h with ⟨-, rfl⟩ | ⟨-, rfl⟩ <;> exact isBare_decimal _
  case diffWithinRange =>
    rcases h with ⟨-, rfl⟩ | ⟨-, rfl⟩ | ⟨-, rfl⟩
    · exact isBare_entity _
    · exact isBare_decimal _
    · exact isBare_decimal _
  case targetRequiredClaim | conflictsWith =>
    rcases h with ⟨-, rfl⟩ | ⟨-, -, rfl⟩
    · exact isBare_entity _
    · exact isBare_listText _
  case item =>
    rcases h with ⟨-, rfl⟩ | ⟨-, -, rfl⟩ | ⟨-, -, rfl⟩
    · exact isBare_entity _
    · exact isBare_listText _
    · exact isBare_listText _

/-- The declaration of a rule is read as the template if its values can be written, and only the
last of them may open a nowiki marker. -/
theorem ofText_render_of_values {rule : Rule} (hv : ∀ e ∈ parameters rule, IsValueText e.2)
    (ho : ∀ e ∈ (parameters rule).dropLast, ¬ nowikiOpening <:+: e.2) :
    Template.ofText (declaring rule).render = .ok (declaring rule) := by
  have ha : (declaring rule).arguments = (parameters rule).map fun e => .named e.1 e.2 := rfl
  refine ofText_of_denotes (denotes_render (isNameText_titleOf rule.kind).isLabel ?_ ?_)
  · rw [ha, List.forall_mem_map]
    intro e he
    have hk := isKeyText_of_mem ((keys_parameters_sublist rule).subset (List.mem_map_of_mem he))
    refine Argument.IsWritable.isLegible ⟨fun e' he' => ?_, hv e he⟩
    cases he'
    exact hk
  · rw [ha, ← List.map_dropLast, List.forall_mem_map]
    exact ho

theorem ofText_render_declaring {rule : Rule}
    (h : ∀ pattern, rule = .format pattern →
      pattern.trim = pattern ∧ ¬ nowikiClosing <:+: pattern) :
    Template.ofText (declaring rule).render = .ok (declaring rule) := by
  by_cases hr : ∃ pattern, rule = .format pattern
  · -- a pattern is the only value, so it may open a marker
    obtain ⟨pattern, rfl⟩ := hr
    obtain ⟨ht, hc⟩ := h pattern rfl
    refine ofText_render_of_values (fun e he => ?_) (by simp [parameters])
    cases List.mem_singleton.mp he
    exact ⟨.inr ht, hc⟩
  · have hb : ∀ e ∈ parameters rule, IsBare e.2 := fun e he =>
      isBare_of_mem_parameters (fun pattern hp => hr ⟨pattern, hp⟩) he
    refine ofText_render_of_values (fun e he => (hb e he).isValueText) fun e he => ?_
    exact (hb e (List.dropLast_subset _ he)).not_isInfix

variable {rule : Rule} {key value : Text}

theorem get?_declaring_eq_some_iff :
    (declaring rule).get? key = some value ↔ (key, value) ∈ parameters rule :=
  get?_eq_some_iff_mem

theorem gives_declaring {α : Type} {parse : Text → Except Reason α} {a : α}
    (h : (key, value) ∈ parameters rule) (ht : value.trim = value) (hn : value ≠ [])
    (hp : parse value = .ok a) : Gives (declaring rule) key parse a := by
  have hb := Text.isBlank_of_trim_eq_self ht hn
  refine ⟨value, ?_, hp⟩
  rw [filled?_of_get?_eq_some (get?_declaring_eq_some_iff.mpr h), hb, if_neg Bool.false_ne_true]

theorem gives_entity {id : EntityId kind} (h : (key, id.text) ∈ parameters rule) :
    Gives (declaring rule) key (entityOf kind) id :=
  gives_declaring h id.trim_text (by simp [EntityId.text]) (entityOf_text id)

theorem gives_decimal {d : Decimal} (h : (key, d.text) ∈ parameters rule) :
    Gives (declaring rule) key decimalOf d := by
  have hn : d.text ≠ [] := by simp [Decimal.text, d.isCanonical.integer_ne_nil]
  exact gives_declaring h d.trim_text hn (decimalOf_text d)

theorem gives_membership {m : Membership} (h : (key, m.keyword) ∈ parameters rule) :
    Gives (declaring rule) key membershipOf m :=
  gives_declaring h (isBare_keyword m).trimmed (by cases m <;> decide) (membershipOf_keyword m)

theorem gives_list {ids : List (EntityId kind)} (hn : ids ≠ [])
    (h : (key, listText ids) ∈ parameters rule) :
    Gives (declaring rule) key (entitiesOf kind) ids := by
  have hl : listText ids ≠ [] := Text.join_ne_nil _ (by simp [EntityId.text]) (by simpa using hn)
  exact gives_declaring h (isBare_listText ids).trimmed hl (entitiesOf_listText hn)

theorem filled?_declaring_eq_none (h : ∀ value, (key, value) ∉ parameters rule) :
    filled? (declaring rule) key = none := by
  have hn : (declaring rule).get? key = none :=
    Option.eq_none_iff_forall_ne_some.mpr fun value hv => h value (get?_declaring_eq_some_iff.mp hv)
  rw [filled?, hn]
  rfl

theorem mayGive_items {ids : List ItemId}
    (h : ∀ value, (key, value) ∈ parameters rule ↔ (key, value) ∈ optionalParameter key ids) :
    MayGive (declaring rule) key (entitiesOf .item) [] ids := by
  by_cases hn : ids = []
  · exact .inl ⟨filled?_declaring_eq_none (by simp [h, hn, mem_optionalParameter]), hn.symm⟩
  · exact .inr (gives_list hn ((h _).mpr (mem_optionalParameter.mpr ⟨hn, rfl, rfl⟩)))

theorem mayGive_item {item : Option ItemId}
    (h : ∀ value, (key, value) ∈ parameters rule ↔
      (key, value) ∈ optionalParameter key item.toList) :
    MayGive (declaring rule) key optionalItemOf none item := by
  cases item with
  | none => exact .inl ⟨filled?_declaring_eq_none (by simp [h, mem_optionalParameter]), rfl⟩
  | some id =>
    have hm : (key, id.text) ∈ parameters rule := by
      rw [h, mem_optionalParameter]
      exact ⟨by simp, rfl, (listText_singleton id).symm⟩
    obtain ⟨v, hv, hp⟩ := gives_entity hm
    exact .inr ⟨v, hv, by rw [optionalItemOf, hp]; rfl⟩

/-- The template that declares a rule gives it. -/
theorem givesRule_declaring {check : PatternCheck} (h : rule.Fits check) :
    GivesRule check (declaring rule) rule := by
  cases rule with
  | type members m | valueType members m =>
    exact ⟨gives_entity (by simp [parameters]), gives_membership (by simp [parameters])⟩
  | inverse property => exact gives_entity (by simp [parameters])
  | format pattern =>
    obtain ⟨hn, ht, hc⟩ := h
    exact gives_declaring (by simp [parameters]) ht hn (patternOf_eq_ok_iff.mpr ⟨ht, hc⟩)
  | oneOf values => exact gives_list h (by simp [parameters])
  | range min max =>
    exact ⟨gives_decimal (by simp [parameters]), gives_decimal (by simp [parameters]),
      (Decimal.compare_ne_gt_iff min max).mpr h⟩
  | diffWithinRange base min max =>
    exact ⟨gives_entity (by simp [parameters]), gives_decimal (by simp [parameters]),
      gives_decimal (by simp [parameters]), (Decimal.compare_ne_gt_iff min max).mpr h⟩
  | targetRequiredClaim required item =>
    exact ⟨gives_entity (by simp [parameters]),
      mayGive_item (by simp [parameters, mem_optionalParameter])⟩
  | item required item exceptions =>
    exact ⟨gives_entity (by simp [parameters]),
      mayGive_item (by simp [parameters, mem_optionalParameter]),
      mayGive_items (by simp [parameters, mem_optionalParameter])⟩
  | conflictsWith conflicting values =>
    exact ⟨gives_entity (by simp [parameters]),
      mayGive_items (by simp [parameters, mem_optionalParameter])⟩
  | qualifiers allowed =>
    by_cases hn : allowed = []
    · subst hn
      have hg : (declaring (.qualifiers [])).get? "list" = some [] :=
        get?_declaring_eq_some_iff.mpr (by simp [parameters, listText, Text.join])
      exact .inl ⟨[], hg, rfl, rfl⟩
    · exact .inr (gives_list hn (by simp [parameters]))
  | _ => trivial

theorem unrecognized_declaring (rule : Rule) :
    unrecognized (declaring rule) (parameterKeys rule.kind) = [] := by
  have h : (declaring rule).named.keys.filter
      (fun key => !(parameterKeys rule.kind).contains key) = [] := by
    rw [List.filter_eq_nil_iff]
    intro key hk
    have := (keys_parameters_sublist rule).subset hk
    simpa using this
  rw [unrecognized, h]
  rfl

theorem build_declaring {check : PatternCheck} {policy : Policy} {c : Constraint}
    (h : c.rule.Fits check) :
    (Registry.standard check policy).build c.property (declaring c.rule) = (.ok c, []) := by
  have hn : normalizeName (declaring c.rule).name = c.kind.templateName :=
    normalizeName_titleOf c.kind
  have hu : unrecognized (declaring c.rule) (parameterKeys c.kind) = [] :=
    unrecognized_declaring c.rule
  rw [build_standard hn (givesRule_declaring h), hu]
  cases policy <;> rfl

/-- Every well-formed constraint is declared by a template: written out and compiled, it yields the
constraint and no warning, whatever the policy. -/
theorem compile_render_declaring {check : PatternCheck} {policy : Policy} {c : Constraint}
    (hf : c.rule.Fits check)
    (hn : ∀ pattern, c.rule = .format pattern → ¬ nowikiClosing <:+: pattern) :
    compile (Registry.standard check policy) c.property (declaring c.rule).render =
      (.ok c, []) := by
  have ht : Template.ofText (declaring c.rule).render = .ok (declaring c.rule) := by
    refine ofText_render_declaring fun pattern hp => ⟨?_, hn pattern hp⟩
    rw [hp] at hf
    exact hf.2.1
  rw [compile_of_ofText_eq_ok ht, build_declaring hf]
  rfl

/-- A pattern with an open marker, a separator and braces. -/
theorem compile_render_declaring_marker :
    let c : Constraint := ⟨.instanceOf, .format "<nowiki>|\\d\x7b2\x7d"⟩
    c.rule.Fits (fun _ => .ok ()) ∧
      (∀ pattern, c.rule = .format pattern → ¬ nowikiClosing <:+: pattern) ∧
      compile (Registry.standard (fun _ => .ok ()) .reject) c.property (declaring c.rule).render =
        (.ok c, []) := by
  intro c
  have hf : c.rule.Fits fun _ => .ok () := ⟨by decide, by decide, rfl⟩
  have hn : ∀ pattern, c.rule = .format pattern → ¬ nowikiClosing <:+: pattern := by
    rintro pattern ⟨⟩
    decide
  exact ⟨hf, hn, compile_render_declaring hf hn⟩

end WikiAxioms.Catalog
