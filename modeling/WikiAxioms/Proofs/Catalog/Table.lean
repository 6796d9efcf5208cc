import WikiAxioms.Proofs.Catalog.Policy
import WikiAxioms.Proofs.Catalog.Value

/-!
# The table of parameters

Which parameters each kind has, as a table: key, whether it may be left out or blank, and what its
value has to be. Building a template under the name of a kind is walking the rows of the kind. The
first row that fails decides the fault; if none does, the values of the rows are the parts of the
rule, and only bounds that are the wrong way round can still be at fault. Nothing else of the
template is looked at.
-/

namespace WikiAxioms.Catalog

open WikiAxioms.Markup
open ParameterReader

/-! ## The table -/

/-- Whether a parameter has to be given. -/
inductive Presence where
  /-- It has to be there and not blank. -/
  | mandatory
  /-- It has to be there; blank, it is empty. -/
  | blankable
  /-- It may be absent or blank. -/
  | optional
  deriving DecidableEq

/-- What the value of a parameter has to be. -/
inductive Shape where
  | item
  | items
  | property
  | properties
  | membership
  | decimal
  | pattern

/-- A part of a rule, whatever it is. -/
inductive Part where
  | nothing
  | item (id : ItemId)
  | items (ids : List ItemId)
  | property (id : PropertyId)
  | properties (ids : List PropertyId)
  | membership (m : Membership)
  | decimal (d : Decimal)
  | pattern (t : Text)

/-- What a value means where a shape is asked for: a part of the shape, or why it is none. -/
inductive Shape.Means (check : PatternCheck) : Shape → Text → Except Reason Part → Prop
  | item {value : Text} {r : Except Reason ItemId} :
      MeansEntity value r → Means check .item value (r.map .item)
  | items {value : Text} {r : Except Reason (List ItemId)} :
      MeansEntities value r → Means check .items value (r.map .items)
  | property {value : Text} {r : Except Reason PropertyId} :
      MeansEntity value r → Means check .property value (r.map .property)
  | properties {value : Text} {r : Except Reason (List PropertyId)} :
      MeansEntities value r → Means check .properties value (r.map .properties)
  | membership {value : Text} {r : Except Reason Membership} :
      MeansMembership value r → Means check .membership value (r.map .membership)
  | decimal {value : Text} {r : Except Reason Decimal} :
      MeansDecimal value r → Means check .decimal value (r.map .decimal)
  | pattern {value : Text} {r : Except Reason Text} :
      MeansPattern check value r → Means check .pattern value (r.map .pattern)

/-- The part of a shape where no value is given. -/
def Shape.empty : Shape → Part
  | .items => .items []
  | .properties => .properties []
  | _ => .nothing

/-- A row of the table. -/
structure Row where
  key : Text
  presence : Presence
  shape : Shape

/-- The rows of a kind. -/
def table : Kind → List Row
  | .type | .valueType => [⟨"class", .mandatory, .item⟩, ⟨"relation", .mandatory, .membership⟩]
  | .singleValue | .uniqueValue | .multiValue | .symmetric | .existingFile => []
  | .inverse => [⟨"property", .mandatory, .property⟩]
  | .format => [⟨"pattern", .mandatory, .pattern⟩]
  | .oneOf => [⟨"values", .mandatory, .items⟩]
  | .range => [⟨"min", .mandatory, .decimal⟩, ⟨"max", .mandatory, .decimal⟩]
  | .diffWithinRange =>
    [⟨"base_property", .mandatory, .property⟩, ⟨"min", .mandatory, .decimal⟩,
      ⟨"max", .mandatory, .decimal⟩]
  | .targetRequiredClaim => [⟨"property", .mandatory, .property⟩, ⟨"item", .optional, .item⟩]
  | .item =>
    [⟨"property", .mandatory, .property⟩, ⟨"item", .optional, .item⟩,
      ⟨"exceptions", .optional, .items⟩]
  | .conflictsWith => [⟨"property", .mandatory, .property⟩, ⟨"item", .optional, .items⟩]
  | .qualifiers => [⟨"list", .blankable, .properties⟩]

/-- What a template gives for a row. A value is kept as written in the fault that it causes. -/
def Row.Yields (check : PatternCheck) (t : Template) (row : Row)
    (outcome : Except BuildFault Part) : Prop :=
  match t.get? row.key with
  | none =>
    outcome = if row.presence = .optional then .ok row.shape.empty else .error (.missing row.key)
  | some value =>
    if value.isBlank then
      outcome = if row.presence = .mandatory then .error (.invalid row.key value .emptyValue)
        else .ok row.shape.empty
    else ∃ meaning, row.shape.Means check value meaning ∧
      outcome = meaning.mapError (.invalid row.key value)

/-- What walking the rows in order comes to: the fault of the first that fails, or all the parts. -/
inductive Walk (check : PatternCheck) (t : Template) :
    List Row → Except BuildFault (List Part) → Prop
  | nil : Walk check t [] (.ok [])
  | stop {row : Row} {rows : List Row} {fault : BuildFault} :
      row.Yields check t (.error fault) → Walk check t (row :: rows) (.error fault)
  | step {row : Row} {rows : List Row} {part : Part} {outcome : Except BuildFault (List Part)} :
      row.Yields check t (.ok part) → Walk check t rows outcome →
        Walk check t (row :: rows) (outcome.map (part :: ·))

/-- The parts of a rule, in the order of the rows of its kind. -/
def partsOf : Rule → List Part
  | .type members m | .valueType members m => [.item members, .membership m]
  | .singleValue | .uniqueValue | .multiValue | .symmetric | .existingFile => []
  | .inverse property => [.property property]
  | .format pattern => [.pattern pattern]
  | .oneOf values => [.items values]
  | .range min max => [.decimal min, .decimal max]
  | .diffWithinRange base min max => [.property base, .decimal min, .decimal max]
  | .targetRequiredClaim required item => [.property required, item.elim .nothing .item]
  | .item required item exceptions =>
    [.property required, item.elim .nothing .item, .items exceptions]
  | .conflictsWith conflicting values => [.property conflicting, .items values]
  | .qualifiers allowed => [.properties allowed]

/-- The rule, unless it has bounds that are the wrong way round as numbers. -/
def checkBounds (rule : Rule) : Except BuildFault Rule :=
  match rule with
  | .range min max | .diffWithinRange _ min max =>
    if max.value < min.value then .error (.invalid "max" max.text (.belowMin min)) else .ok rule
  | _ => .ok rule

theorem elim_nothing_injective :
    Function.Injective fun item : Option ItemId => item.elim Part.nothing .item := by
  intro a b h
  cases a <;> cases b <;> simp_all

/-- Kind and parts determine a rule. -/
theorem eq_of_partsOf_eq {rule rule' : Rule} (hk : rule.kind = rule'.kind)
    (hp : partsOf rule = partsOf rule') : rule = rule' := by
  cases rule <;> cases rule' <;> cases hk
  case singleValue | uniqueValue | multiValue | symmetric | existingFile => rfl
  case targetRequiredClaim | item =>
    simp only [partsOf, List.cons.injEq, Part.property.injEq, Part.items.injEq, and_true] at hp
    simpa [elim_nothing_injective.eq_iff] using hp
  all_goals simpa [partsOf] using hp

/-! ## Walking the table -/

variable {α β : Type} {check : PatternCheck} {t : Template}

/-- A value has one meaning. -/
theorem Shape.Means.unique {shape : Shape} {value : Text} {r r' : Except Reason Part}
    (h : shape.Means check value r) (h' : shape.Means check value r') : r = r' := by
  cases h with
  | item h =>
    cases h' with
    | item h' => rw [← meansEntity_iff.mp h, ← meansEntity_iff.mp h']
  | items h =>
    cases h' with
    | items h' => rw [← meansEntities_iff.mp h, ← meansEntities_iff.mp h']
  | property h =>
    cases h' with
    | property h' => rw [← meansEntity_iff.mp h, ← meansEntity_iff.mp h']
  | properties h =>
    cases h' with
    | properties h' => rw [← meansEntities_iff.mp h, ← meansEntities_iff.mp h']
  | membership h =>
    cases h' with
    | membership h' => rw [← meansMembership_iff.mp h, ← meansMembership_iff.mp h']
  | decimal h =>
    cases h' with
    | decimal h' => rw [← meansDecimal_iff.mp h, ← meansDecimal_iff.mp h']
  | pattern h =>
    cases h' with
    | pattern h' => rw [← meansPattern_iff.mp h, ← meansPattern_iff.mp h']

theorem Row.Yields.unique {row : Row} {outcome outcome' : Except BuildFault Part}
    (h : row.Yields check t outcome) (h' : row.Yields check t outcome') : outcome = outcome' := by
  unfold Row.Yields at h h'
  cases hv : t.get? row.key with
  | none =>
    simp only [hv] at h h'
    exact h.trans h'.symm
  | some value =>
    simp only [hv] at h h'
    split at h <;> rename_i hb
    · rw [if_pos hb] at h'
      exact h.trans h'.symm
    · rw [if_neg hb] at h'
      obtain ⟨meaning, hm, rfl⟩ := h
      obtain ⟨meaning', hm', rfl⟩ := h'
      rw [hm.unique hm']

/-- A walk comes to one end. -/
theorem Walk.unique {rows : List Row} {outcome outcome' : Except BuildFault (List Part)}
    (h : Walk check t rows outcome) (h' : Walk check t rows outcome') : outcome = outcome' := by
  induction h generalizing outcome' with
  | nil =>
    cases h'
    rfl
  | stop hy =>
    cases h' with
    | stop hy' => exact congrArg _ (Except.error.inj (hy.unique hy'))
    | step hy' hw' => cases hy.unique hy'
  | step hy hw ih =>
    cases h' with
    | stop hy' => cases hy.unique hy'
    | step hy' hw' => rw [Except.ok.inj (hy.unique hy'), ih hw']

/-- Nothing matters but what the template gives for the keys of the rows. -/
theorem Walk.congr {u : Template} {rows : List Row} {outcome : Except BuildFault (List Part)}
    (h : ∀ row ∈ rows, u.get? row.key = t.get? row.key) (hw : Walk check t rows outcome) :
    Walk check u rows outcome := by
  induction hw with
  | nil => exact .nil
  | stop hy =>
    refine .stop ?_
    rwa [Row.Yields, h _ List.mem_cons_self]
  | step hy hw ih =>
    rw [List.forall_mem_cons] at h
    refine .step ?_ (ih h.2)
    rwa [Row.Yields, h.1]

/-- The reader asks for one row and understands what the template gives for it. -/
def ReadsRow (check : PatternCheck) (r : ParameterReader α) (row : Row) (part : α → Part) : Prop :=
  ∀ request asked, row.Yields check request.template ((r.runFrom request asked).1.map part)

/-- The reader fails with the fault of the first row that fails; if none does, it ends as `ends`
says of the parts. -/
def Walks (check : PatternCheck) (rows : List Row)
    (ends : List Part → Except BuildFault α → Prop) (r : ParameterReader α) : Prop :=
  ∀ request asked, ∃ outcome, Walk check request.template rows outcome ∧ match outcome with
    | .error fault => (r.runFrom request asked).1 = .error fault
    | .ok parts => ends parts (r.runFrom request asked).1

theorem map_mapError {ε δ : Type} (x : Except ε α) (f : ε → δ) (g : α → β) :
    (x.mapError f).map g = (x.map g).mapError f := by
  cases x <;> rfl

theorem readsRow_parsed {parse : Text → Except Reason α} {shape : Shape} {part : α → Part}
    (h : ∀ value, shape.Means check value ((parse value).map part)) (key : Text) :
    ReadsRow check (parsed key parse) ⟨key, .mandatory, shape⟩ part := by
  intro request asked
  rw [parsed, runFrom_bind, required, runFrom_bind, runFrom_look, Row.Yields]
  cases request.template.get? key with
  | none => rfl
  | some value =>
    cases hb : value.isBlank with
    | true => simp [hb, Except.map]
    | false =>
      simp only [hb, Bool.false_eq_true, if_false, runFrom_pure, runFrom_accept, map_mapError]
      exact ⟨_, h value, rfl⟩

theorem readsRow_item (key : Text) : ReadsRow check (item key) ⟨key, .mandatory, .item⟩ .item :=
  readsRow_parsed (fun _ => .item (meansEntity_iff.mpr rfl)) key

theorem readsRow_items (key : Text) :
    ReadsRow check (items key) ⟨key, .mandatory, .items⟩ .items :=
  readsRow_parsed (fun _ => .items (meansEntities_iff.mpr rfl)) key

theorem readsRow_propertyId (key : Text) :
    ReadsRow check (propertyId key) ⟨key, .mandatory, .property⟩ .property :=
  readsRow_parsed (fun _ => .property (meansEntity_iff.mpr rfl)) key

theorem readsRow_membership (key : Text) :
    ReadsRow check (membership key) ⟨key, .mandatory, .membership⟩ .membership :=
  readsRow_parsed (fun _ => .membership (meansMembership_iff.mpr rfl)) key

theorem readsRow_decimal (key : Text) :
    ReadsRow check (decimal key) ⟨key, .mandatory, .decimal⟩ .decimal :=
  readsRow_parsed (fun _ => .decimal (meansDecimal_iff.mpr rfl)) key

theorem readsRow_pattern (key : Text) :
    ReadsRow check (parsed key (patternOf check)) ⟨key, .mandatory, .pattern⟩ .pattern :=
  readsRow_parsed (fun _ => .pattern (meansPattern_iff.mpr rfl)) key

theorem readsRow_optionalItem (key : Text) :
    ReadsRow check (optionalItem key) ⟨key, .optional, .item⟩ fun item =>
      item.elim .nothing .item := by
  intro request asked
  rw [optionalItem, runFrom_bind, runFrom_optional, Row.Yields]
  cases hv : request.template.get? key with
  | none => simp [filled?, hv, Except.map, Shape.empty]
  | some value =>
    rw [filled?_of_get?_eq_some hv]
    cases hb : value.isBlank with
    | true => simp [hb, Except.map, Shape.empty]
    | false =>
      simp only [hb, Bool.false_eq_true, if_false]
      refine ⟨_, .item (meansEntity_iff.mpr rfl), ?_⟩
      cases entityOf .item value <;> rfl

theorem readsRow_optionalItems (key : Text) :
    ReadsRow check (optionalItems key) ⟨key, .optional, .items⟩ .items := by
  intro request asked
  rw [optionalItems, runFrom_bind, runFrom_optional, Row.Yields]
  cases hv : request.template.get? key with
  | none => simp [filled?, hv, Except.map, Shape.empty]
  | some value =>
    rw [filled?_of_get?_eq_some hv]
    cases hb : value.isBlank with
    | true => simp [hb, Except.map, Shape.empty]
    | false =>
      simp only [hb, Bool.false_eq_true, if_false, runFrom_accept, map_mapError]
      exact ⟨_, .items (meansEntities_iff.mpr rfl), rfl⟩

theorem readsRow_propertyList (key : Text) :
    ReadsRow check (propertyList key) ⟨key, .blankable, .properties⟩ .properties := by
  intro request asked
  rw [propertyList, runFrom_bind, runFrom_look, Row.Yields]
  cases request.template.get? key with
  | none => rfl
  | some value =>
    cases hb : value.isBlank with
    | true => simp [hb, Except.map, Shape.empty]
    | false =>
      simp only [hb, Bool.false_eq_true, if_false, runFrom_accept, map_mapError]
      exact ⟨_, .properties (meansEntities_iff.mpr rfl), rfl⟩

theorem walks_nil {ends : List Part → Except BuildFault α → Prop} {r : ParameterReader α}
    (h : ∀ request asked, ends [] (r.runFrom request asked).1) : Walks check [] ends r :=
  fun request asked => ⟨.ok [], .nil, h request asked⟩

theorem walks_pure {ends : List Part → Except BuildFault α → Prop} {a : α} (h : ends [] (.ok a)) :
    Walks check [] ends (pure a) :=
  walks_nil fun _ _ => h

/-- Reading one row first puts the row in front of those that are walked afterwards. -/
theorem ReadsRow.bind {r : ParameterReader α} {f : α → ParameterReader β} {row : Row}
    {rows : List Row} {part : α → Part} {ends : List Part → Except BuildFault β → Prop}
    (hr : ReadsRow check r row part)
    (hf : ∀ a, Walks check rows (fun parts => ends (part a :: parts)) (f a)) :
    Walks check (row :: rows) ends (r >>= f) := by
  intro request asked
  have hy := hr request asked
  rw [runFrom_bind]
  rcases hrun : r.runFrom request asked with ⟨fault | a, noted⟩
  · rw [hrun] at hy
    exact ⟨.error fault, .stop hy, rfl⟩
  · rw [hrun] at hy
    obtain ⟨outcome, hw, he⟩ := hf a request noted
    refine ⟨outcome.map (part a :: ·), .step hy hw, ?_⟩
    cases outcome <;> exact he

/-- How reading the rule of a kind ends when no row fails. -/
def RuleEnds (kind : Kind) (parts : List Part) (outcome : Except BuildFault Rule) : Prop :=
  ∃ rule : Rule, rule.kind = kind ∧ partsOf rule = parts ∧ outcome = checkBounds rule

theorem RuleEnds.of_eq {kind : Kind} {parts : List Part} {rule : Rule} (hk : rule.kind = kind)
    (hp : partsOf rule = parts) (hc : checkBounds rule = .ok rule) :
    RuleEnds kind parts (.ok rule) :=
  ⟨rule, hk, hp, hc.symm⟩

/-- Bounds are two rows; they are compared when both have been read. -/
theorem walks_bounds {f : Decimal × Decimal → Rule} {kind : Kind} (front : List Part)
    (hk : ∀ min max, (f (min, max)).kind = kind)
    (hp : ∀ min max, partsOf (f (min, max)) = front ++ [.decimal min, .decimal max])
    (hc : ∀ min max, checkBounds (f (min, max)) =
      if max.value < min.value then .error (.invalid "max" max.text (.belowMin min))
      else .ok (f (min, max))) :
    Walks check [⟨"min", .mandatory, .decimal⟩, ⟨"max", .mandatory, .decimal⟩]
      (fun parts => RuleEnds kind (front ++ parts)) (bounds >>= fun b => pure (f b)) := by
  rw [bounds, bind_assoc]
  refine (readsRow_decimal "min").bind fun min => ?_
  rw [bind_assoc]
  refine (readsRow_decimal "max").bind fun max => ?_
  have hlt : compare min max = .gt ↔ max.value < min.value := by
    rw [← not_le, ← Decimal.compare_ne_gt_iff, not_not]
  refine walks_nil fun request asked => ⟨f (min, max), hk min max, hp min max, ?_⟩
  rw [hc]
  by_cases h : compare min max = .gt
  · rw [if_pos h, if_pos (hlt.mp h)]
    rfl
  · rw [if_neg h, if_neg (mt hlt.mpr h)]
    rfl

/-- Reading the rule of a kind is walking the rows of the kind. -/
theorem walks_ruleReader (check : PatternCheck) (kind : Kind) :
    Walks check (table kind) (RuleEnds kind) (ruleReader check kind) := by
  cases kind with
  | type | valueType =>
    exact (readsRow_item _).bind fun _ => (readsRow_membership _).bind fun _ =>
      walks_pure (.of_eq rfl rfl rfl)
  | singleValue | uniqueValue | multiValue | symmetric | existingFile =>
    exact walks_pure (.of_eq rfl rfl rfl)
  | inverse => exact (readsRow_propertyId _).bind fun _ => walks_pure (.of_eq rfl rfl rfl)
  | format => exact (readsRow_pattern _).bind fun _ => walks_pure (.of_eq rfl rfl rfl)
  | oneOf => exact (readsRow_items _).bind fun _ => walks_pure (.of_eq rfl rfl rfl)
  | range => exact walks_bounds [] (fun _ _ => rfl) (fun _ _ => rfl) (fun _ _ => rfl)
  | diffWithinRange =>
    exact (readsRow_propertyId _).bind fun base =>
      walks_bounds [.property base] (fun _ _ => rfl) (fun _ _ => rfl) (fun _ _ => rfl)
  | targetRequiredClaim =>
    exact (readsRow_propertyId _).bind fun _ => (readsRow_optionalItem _).bind fun _ =>
      walks_pure (.of_eq rfl rfl rfl)
  | item =>
    exact (readsRow_propertyId _).bind fun _ => (readsRow_optionalItem _).bind fun _ =>
      (readsRow_optionalItems _).bind fun _ => walks_pure (.of_eq rfl rfl rfl)
  | conflictsWith =>
    exact (readsRow_propertyId _).bind fun _ => (readsRow_optionalItems _).bind fun _ =>
      walks_pure (.of_eq rfl rfl rfl)
  | qualifiers => exact (readsRow_propertyList _).bind fun _ => walks_pure (.of_eq rfl rfl rfl)

/-! ## Building -/

variable {property : PropertyId} {kind : Kind}

/-- The rule of a kind depends on nothing but what the template gives for the rows of the kind. -/
theorem fst_runFrom_ruleReader_congr {request request' : Request}
    (h : ∀ row ∈ table kind, request'.template.get? row.key = request.template.get? row.key)
    (asked asked' : List Text) : ((ruleReader check kind).runFrom request' asked').1 =
      ((ruleReader check kind).runFrom request asked).1 := by
  obtain ⟨outcome, hw, he⟩ := walks_ruleReader check kind request asked
  obtain ⟨outcome', hw', he'⟩ := walks_ruleReader check kind request' asked'
  obtain rfl := hw'.unique (hw.congr h)
  cases outcome' with
  | error fault => exact he'.trans he.symm
  | ok parts =>
    obtain ⟨rule, hk, hp, hr⟩ := he
    obtain ⟨rule', hk', hp', hr'⟩ := he'
    obtain rfl := eq_of_partsOf_eq (hk'.trans hk.symm) (hp'.trans hp.symm)
    exact hr'.trans hr.symm

/-- Under `ignore`, building is reading the rule of the kind that the name stands for. -/
theorem build_standard_ignore (hn : normalizeName t.name = kind.templateName) :
    (Registry.standard check .ignore).build property t =
      (((ruleReader check kind).runFrom ⟨property, t⟩ []).1.map (Constraint.mk property), []) := by
  have hf : (Registry.standard check .ignore).find? t.name = some (standardEntry check kind) :=
    Registry.find?_standard_eq_some_iff.mpr ⟨kind, hn, rfl⟩
  rw [Registry.build, hf]
  simp only [standardEntry, policy_standard, apply_ignore]
  rcases (ruleReader check kind).runFrom ⟨property, t⟩ [] with ⟨fault | rule, asked⟩ <;> rfl

/-- Under the name of a kind and the policy `ignore`, the rows of the kind are walked: the first one
that fails decides the fault. If none fails, the values of the rows are the parts of the rule that
is built, unless they are bounds that are the wrong way round. What is built does not depend on the
property, nor on anything in the template but what it gives for the keys of the kind. -/
theorem build_standard_walks (hn : normalizeName t.name = kind.templateName) :
    let built := (Registry.standard check .ignore).build property t
    built.2 = [] ∧
      (∃! outcome, Walk check t (table kind) outcome) ∧
      (∀ outcome, Walk check t (table kind) outcome → match outcome with
        | .error fault => built.1 = .error fault
        | .ok parts => ∃ rule : Rule, rule.kind = kind ∧ partsOf rule = parts ∧
            built.1 = (checkBounds rule).map (Constraint.mk property)) ∧
      ∀ property' u, normalizeName u.name = kind.templateName →
        (∀ row ∈ table kind, u.get? row.key = t.get? row.key) →
        ((Registry.standard check .ignore).build property' u).1.map Constraint.rule =
          built.1.map Constraint.rule := by
  intro built
  have hb : built = _ := build_standard_ignore hn
  obtain ⟨outcome, hw, he⟩ := walks_ruleReader check kind ⟨property, t⟩ []
  rw [hb]
  refine ⟨rfl, ⟨outcome, hw, fun _ hw' => hw'.unique hw⟩, fun outcome' hw' => ?_,
    fun property' u hu hr => ?_⟩
  · obtain rfl := hw.unique hw'
    cases outcome with
    | error fault =>
      rw [he]
      rfl
    | ok parts =>
      obtain ⟨rule, hk, hp, hr⟩ := he
      exact ⟨rule, hk, hp, by rw [hr]⟩
  · have he := @fst_runFrom_ruleReader_congr check kind ⟨property, t⟩ ⟨property', u⟩ hr [] []
    rw [build_standard_ignore hu, he]
    cases ((ruleReader check kind).runFrom ⟨property, t⟩ []).1 <;> rfl

/-- A malformed item comes before an empty list of exceptions, and is blamed as it was written. -/
theorem build_standard_walks_item :
    let check : PatternCheck := fun _ => .ok ()
    let t : Template := Template.ofName "constraint:_item" |>.withPositional "x"
      |>.withNamed "exceptions" "," |>.withNamed "item" " Q05 " |>.withNamed "property" "[[p21]]"
    normalizeName t.name = Kind.item.templateName ∧
      Walk check t (table .item)
        (.error (.invalid "item" " Q05 " (.entity (.malformed .item "Q05")))) ∧
      ((Registry.standard check .ignore).build .instanceOf t).1 =
        .error (.invalid "item" " Q05 " (.entity (.malformed .item "Q05"))) := by
  intro check t
  have hn : normalizeName t.name = Kind.item.templateName := by decide +kernel
  have hproperty : Row.Yields check t ⟨"property", .mandatory, .property⟩
      (.ok (.property ⟨"21", by decide⟩)) :=
    ⟨_, .property (meansEntity_iff.mpr rfl), rfl⟩
  have hitem : Row.Yields check t ⟨"item", .optional, .item⟩
      (.error (.invalid "item" " Q05 " (.entity (.malformed .item "Q05")))) :=
    ⟨_, .item (meansEntity_iff.mpr rfl), rfl⟩
  have hw : Walk check t (table .item)
      (.error (.invalid "item" " Q05 " (.entity (.malformed .item "Q05")))) :=
    .step hproperty (.stop hitem)
  exact ⟨hn, hw, (build_standard_walks hn).2.2.1 _ hw⟩

end WikiAxioms.Catalog
