import WikiAxioms.Proofs.Catalog.WellFormed
import WikiAxioms.Proofs.Output.Decoding
import WikiAxioms.Proofs.Output.TripleGrammar

/-!
# Groups of statements

The output in triples is a document of N-Triples, if the namespaces are made of characters that may
stand in an IRI. Each constraint contributes one group of lines about a blank node that no other
group mentions. What the lines say is read off them by the grammar alone.
-/

namespace WikiAxioms

/-- Lines that are ended by line feeds are found again, with an empty one after the last. -/
theorem Text.lines_flatMap {ls : List Text} (h : ∀ l ∈ ls, '\n' ∉ l) :
    Text.lines (ls.flatMap (· ++ ['\n'])) = ls ++ [[]] := by
  have line (l rest : Text) (hl : '\n' ∉ l) :
      Text.lines (l ++ '\n' :: rest) = l :: Text.lines rest := by
    induction l with
    | nil => simp [lines]
    | cons c l ih =>
      rw [List.mem_cons, not_or] at hl
      simp [lines, Ne.symm hl.1, ih hl.2]
  induction ls with
  | nil => rfl
  | cons l ls ih =>
    rw [List.forall_mem_cons] at h
    simpa [line l _ h.1] using ih h.2

theorem Text.ofNat_injective {m n : Nat} (h : Text.ofNat m = Text.ofNat n) : m = n := by
  have hd := congrArg (Nat.ofDigitChars 10 · 0) h
  simpa [Text.ofNat, Nat.ofDigitChars_toDigits] using hd

/-- How many entries a rule has: one for each item, property and number that it names, and one for a
membership or a pattern. -/
def Rule.entryCount (rule : Rule) : Nat :=
  rule.items.length + rule.properties.length + rule.decimals.length +
    match rule with
    | .type .. | .valueType .. | .format _ => 1
    | _ => 0

namespace Output

open Grammar

/-! ## What the parts of a statement name -/

/-- The blank node of the constraint with an ordinal. -/
def nodeOf (ordinal : Nat) : Resource := .blank ('c' :: Text.ofNat ordinal)

def Node.resource : Node → Resource
  | .iri text => .iri text
  | .blank number => nodeOf number
  | .literal content none => .plain content
  | .literal content (some datatype) => .typed content datatype

def Statement.triple (s : Statement) : Triple :=
  ⟨s.subject.resource, s.predicate, s.object.resource⟩

/-- The line of a statement without its end. -/
def Statement.sentence (s : Statement) : Text :=
  s.subject.text ++ ' ' :: ('<' :: s.predicate ++ ['>']) ++ ' ' :: s.object.text ++ [' ', '.']

theorem Statement.line_eq (s : Statement) : s.line = s.sentence ++ ['\n'] := by
  simp [line, sentence]

theorem nodeOf_injective {m n : Nat} (h : nodeOf m = nodeOf n) : m = n :=
  Text.ofNat_injective (List.cons.inj (Resource.blank.inj h)).2

theorem isLabel_node (n : Nat) : IsLabel ('c' :: Text.ofNat n) := by
  have digit : ∀ c ∈ Text.ofNat n, c.isDigit = true := fun c hc =>
    Nat.isDigit_of_mem_toDigits (by decide) (by decide) hc
  constructor
  · exact ⟨'c', rfl, by decide⟩
  · intro c hc
    rcases List.mem_cons.mp hc with rfl | hc
    · exact .inl (by decide)
    · exact .inl (by simp [isLabelChar, isLabelStart, digit c hc])
  · intro h
    rcases List.mem_cons.mp (List.mem_of_getLast? h) with hc | hc
    · cases hc
    · cases digit '.' hc

theorem isSubject_blank (n : Nat) : IsSubject (Node.blank n).text (nodeOf n) :=
  .blank (isLabel_node n)

theorem isIri_of_isIriText {t : Text} (h : IsIriText t) : IsIri ('<' :: t ++ ['>']) t := by
  refine .mk ?_
  induction t with
  | nil => exact .nil
  | cons c t ih =>
    obtain ⟨hc, ht⟩ := List.forall_mem_cons.mp h
    exact .own hc (ih ht)

theorem isSubject_iri {t : Text} (h : IsIriText t) : IsSubject (Node.iri t).text (.iri t) :=
  .iri (isIri_of_isIriText h)

/-- A quoted text is a quotation of the text. -/
theorem isQuotation_quote (content : Text) : IsQuotation (quote tripleEscapes content) content := by
  refine .mk ?_
  induction content with
  | nil => exact .nil
  | cons c content ih =>
    rw [escape, List.flatMap_cons, ← escape, escapeChar]
    split
    · next letter h =>
      obtain ⟨front, back, he, -⟩ := List.lookup_eq_some_iff.mp h
      have hall : ∀ e ∈ tripleEscapes, (e.2, e.1) ∈ letterEscapes := by decide
      exact .escape (.inl (.mk (hall (c, letter) (by simp [he])))) ih
    · next h =>
      -- whatever has to be escaped is in the table
      have hown : isQuotedChar c = true := by
        by_contra hc
        have hm : c ∈ ['"', '\\', '\n', '\r'] := by_contra fun hm => hc (decide_eq_true hm)
        have hall : ['"', '\\', '\n', '\r'].all (tripleEscapes.lookup · != none) = true := by
          decide
        exact (bne_iff_ne.mp (List.all_eq_true.mp hall c hm)) h
      exact .own hown ih

theorem isLiteral_plain (content : Text) :
    IsLiteral (Node.literal content none).text (.plain content) :=
  .plain (isQuotation_quote content)

theorem isLiteral_typed (content : Text) {datatype : Text} (h : IsIriText datatype) :
    IsLiteral (Node.literal content (some datatype)).text (.typed content datatype) := by
  have ht := IsLiteral.typed (isQuotation_quote content) (isIri_of_isIriText h)
  simpa [Node.text] using ht

/-- The parts of a statement are what the grammar wants them to be. -/
structure Statement.IsGrammatical (s : Statement) : Prop where
  subject : IsSubject s.subject.text s.subject.resource
  predicate : IsIriText s.predicate
  object : IsObject s.object.text s.object.resource

theorem Statement.IsGrammatical.isStatement {s : Statement} (h : s.IsGrammatical) :
    IsStatement s.sentence s.triple :=
  .mk h.subject (isIri_of_isIriText h.predicate) h.object

/-! ## The statements of a constraint -/

/-- What a group says: to which property its node belongs, of which class the node is, and what the
rule holds, entry by entry. -/
structure IsGroup (settings : RenderSettings) (ordinal : Nat) (c : Constraint)
    (group : List Triple) : Prop where
  attachment : group[0]? = some
    ⟨.iri (settings.entityNamespace ++ c.property.text),
      settings.vocabularyNamespace ++ "constraint", nodeOf ordinal⟩
  typing : group[1]? = some
    ⟨nodeOf ordinal, rdfType,
      .iri (settings.vocabularyNamespace ++ c.kind.camelName ++ "Constraint")⟩
  entries : group.drop 2 = (entriesOf settings c.rule).map fun e =>
    ⟨nodeOf ordinal, settings.vocabularyNamespace ++ e.1, e.2.resource⟩
  size : group.length = 2 + c.rule.entryCount
  pattern : ∀ pattern, c.rule = .format pattern → group.drop 2 =
    [⟨nodeOf ordinal, settings.vocabularyNamespace ++ "pattern", .plain pattern⟩]

section Groups

variable {settings : RenderSettings} {ordinal : Nat} {c : Constraint}

theorem length_entriesOf (rule : Rule) : (entriesOf settings rule).length = rule.entryCount := by
  cases rule <;>
    simp [entriesOf, Rule.entryCount, Rule.items, Rule.properties, Rule.decimals]

theorem isGroup_groupOf (settings : RenderSettings) (ordinal : Nat) (c : Constraint) :
    IsGroup settings ordinal c ((groupOf settings ordinal c).map Statement.triple) where
  attachment := rfl
  typing := by simp [groupOf, Output.typing, Statement.triple, Node.resource, vocabularyIri]
  entries := by simp [groupOf, entryStatement, Statement.triple, Node.resource, vocabularyIri]
  size := by
    rw [List.length_map, groupOf, List.length_cons, List.length_cons, List.length_map,
      length_entriesOf]
    omega
  pattern := by
    intro pattern h
    simp [groupOf, h, entriesOf, entryStatement, Statement.triple, Node.resource, vocabularyIri]

theorem IsValue.ne_nodeOf {n : Node} (h : IsValue settings n) (ordinal : Nat) :
    n.resource ≠ nodeOf ordinal := by
  cases h <;> exact nofun

/-- A group mentions no node but its own. -/
theorem ne_nodeOf_of_mem_groupOf {s : Statement} (h : s ∈ groupOf settings ordinal c) {n : Nat}
    (hn : ordinal ≠ n) :
    s.triple.subject ≠ nodeOf n ∧ s.triple.object ≠ nodeOf n := by
  have hne : nodeOf ordinal ≠ nodeOf n := fun he => hn (nodeOf_injective he)
  rw [groupOf, List.mem_cons, List.mem_cons, List.mem_map] at h
  rcases h with rfl | rfl | ⟨e, he, rfl⟩
  · refine ⟨?_, hne⟩
    rintro ⟨⟩
  · refine ⟨hne, ?_⟩
    rintro ⟨⟩
  · exact ⟨hne, (isEntry_of_mem c.rule e he).2.ne_nodeOf n⟩

theorem isIriText_text {kind : EntityKind} (id : EntityId kind) : IsIriText id.text := by
  intro ch h
  rcases EntityId.isDigit_of_mem_text h with rfl | hd
  · cases kind <;> decide
  · have hc := (Decimal.isDigit_iff ch).mp hd
    have hall : ['<', '>', '"', '\x7b', '\x7d', '|', '^', '`', '\\'].all (!·.isDigit) = true := by
      decide
    rw [isIriChar, Bool.and_eq_true]
    refine ⟨decide_eq_true (by omega), decide_eq_true fun hm => ?_⟩
    simpa [hd] using List.all_eq_true.mp hall ch hm

theorem isIriText_append {s t : Text} (hs : IsIriText s) (ht : IsIriText t) :
    IsIriText (s ++ t) :=
  List.forall_mem_append.mpr ⟨hs, ht⟩

theorem isIriText_entityEntry {term : Text} (ht : IsIriText term) {kind : EntityKind}
    (id : EntityId kind) : IsIriText (entityEntry settings term id).1 :=
  ht

theorem isIriText_decimalEntry {term : Text} (ht : IsIriText term) (d : Decimal) :
    IsIriText (decimalEntry term d).1 :=
  ht

/-- The terms of the vocabulary are made for IRIs. -/
theorem isIriText_of_mem (rule : Rule) : ∀ e ∈ entriesOf settings rule, IsIriText e.1 := by
  cases rule
  case format pattern =>
    intro e he
    rw [List.mem_singleton.mp he]
    exact (by decide : IsIriText "pattern")
  all_goals
    simp (disch := decide) [entriesOf, or_imp, forall_and, isIriText_entityEntry,
      isIriText_decimalEntry]

theorem isIriText_classTerm (kind : Kind) : IsIriText (classTerm kind) := by
  cases kind <;> decide

variable (he : IsIriText settings.entityNamespace) (hv : IsIriText settings.vocabularyNamespace)

include he

theorem isSubject_entityNode {kind : EntityKind} (id : EntityId kind) :
    IsSubject (entityNode settings id).text (entityNode settings id).resource :=
  isSubject_iri (isIriText_append he (isIriText_text id))

theorem isObject_of_isValue {n : Node} (h : IsValue settings n) : IsObject n.text n.resource := by
  cases h with
  | entity id => exact .subject (isSubject_entityNode he id)
  | plain content => exact .literal (isLiteral_plain content)
  | decimal content => exact .literal (isLiteral_typed content (by decide))

include hv

/-- Every statement of a group is one by the grammar. -/
theorem isGrammatical_of_mem_groupOf {s : Statement} (h : s ∈ groupOf settings ordinal c) :
    s.IsGrammatical := by
  rw [groupOf, List.mem_cons, List.mem_cons, List.mem_map] at h
  rcases h with rfl | rfl | ⟨e, hm, rfl⟩
  · exact
      { subject := isSubject_entityNode he c.property
        predicate := isIriText_append hv (by decide)
        object := .subject (isSubject_blank ordinal) }
  · exact
      { subject := isSubject_blank ordinal
        predicate := (by decide : IsIriText rdfType)
        object := .subject (isSubject_iri (isIriText_append hv (isIriText_classTerm c.kind))) }
  · exact
      { subject := isSubject_blank ordinal
        predicate := isIriText_append hv (isIriText_of_mem c.rule e hm)
        object := isObject_of_isValue he (isEntry_of_mem c.rule e hm).2 }

end Groups

/-! ## Documents -/

variable {settings : RenderSettings}

/-- The statements of constraints that are numbered from one, constraint by constraint. -/
def statementsOf (settings : RenderSettings) (cs : List Constraint) : List (List Statement) :=
  cs.mapIdx fun i c => groupOf settings (i + 1) c

theorem getElem?_statementsOf (cs : List Constraint) (i : Nat) :
    (statementsOf settings cs)[i]? = cs[i]?.map (groupOf settings (i + 1)) :=
  List.getElem?_mapIdx

/-- The document has one line for each statement. -/
theorem document_triples_eq (cs : List Constraint) : (triples settings).document cs =
    ((statementsOf settings cs).flatten.map Statement.sentence).flatMap (· ++ ['\n']) := by
  have hblocks : (triples settings).blocks cs =
      ((statementsOf settings cs).flatten.map Statement.sentence).flatMap (· ++ ['\n']) := by
    rw [List.flatMap_map, ← funext Statement.line_eq, List.flatMap_def, List.map_flatten,
      List.flatten_flatten, statementsOf]
    simp only [Backend.blocks, blockText_triples, List.mapIdx_eq_zipIdx_map, List.map_map]
    rfl
  cases cs with
  | nil => rfl
  | cons c cs => exact hblocks

namespace Writer

/-- All that is written in triples is lines, each of which is a statement that says one thing. The
statements come in groups, one a constraint, and no group mentions the node of another. -/
theorem lines_received_triples {settings : RenderSettings}
    (he : IsIriText settings.entityNamespace) (hv : IsIriText settings.vocabularyNamespace)
    {s : Sink} (hs : s.NeverCloses) (calls : List Call) :
    let cs := calls.flatMap Call.submitted
    ∃ (text : Text) (lines : List Text) (groups : List (List Triple)),
      ((new (triples settings) s).run calls).2.channel.received = text.utf8 ∧
      text.lines = lines ++ [[]] ∧
      List.Forall₂ (fun line x => ∀ y, IsStatement line y ↔ y = x) lines groups.flatten ∧
      List.Forall₂ (fun ic group => IsGroup settings (ic.2 + 1) ic.1 group) cs.zipIdx groups ∧
      ∀ i j group, groups[i]? = some group → i ≠ j → ∀ x ∈ group,
        x.subject ≠ nodeOf (j + 1) ∧ x.object ≠ nodeOf (j + 1) := by
  intro cs
  let statements := statementsOf settings cs
  have hstatement : ∀ st ∈ statements.flatten, IsStatement st.sentence st.triple := by
    intro st hst
    obtain ⟨group, hg, hm⟩ := List.mem_flatten.mp hst
    obtain ⟨i, hi, rfl⟩ := List.mem_mapIdx.mp hg
    exact (isGrammatical_of_mem_groupOf he hv hm).isStatement
  refine ⟨(triples settings).document cs, statements.flatten.map Statement.sentence,
    statements.map (List.map Statement.triple), ?_, ?_, ?_, ?_, ?_⟩
  · rw [received_run_of_neverCloses (isLawful_triples settings) hs, supported_triples]
  · rw [document_triples_eq]
    refine Text.lines_flatMap ?_
    rintro _ hl hn
    obtain ⟨st, hst, rfl⟩ := List.mem_map.mp hl
    exact ((hstatement st hst).isInline _ hn).1 rfl
  · rw [← List.map_flatten, List.forall₂_map_left_iff, List.forall₂_map_right_iff,
      List.forall₂_same]
    intro st hst y
    exact ⟨fun h => h.unique (hstatement st hst), fun h => h ▸ hstatement st hst⟩
  · rw [List.forall₂_map_right_iff, List.forall₂_iff_get]
    refine ⟨by simp [statements, statementsOf], fun i hi hi' => ?_⟩
    have hc : i < cs.length := by simpa using hi
    simpa [statements, statementsOf] using isGroup_groupOf settings (i + 1) (cs.get ⟨i, hc⟩)
  · intro i j group hg hij x hx
    rw [List.getElem?_map, getElem?_statementsOf, Option.map_map, Option.map_eq_some_iff] at hg
    obtain ⟨c, -, rfl⟩ := hg
    obtain ⟨st, hst, rfl⟩ := List.mem_map.mp hx
    exact ne_nodeOf_of_mem_groupOf hst (mt Nat.succ.inj hij)

/-- A pattern with all that is escaped, then a list, to a sink that takes three bytes at a time. -/
theorem lines_received_triples_escapes :
    let settings := RenderSettings.default
    let s : Sink := ⟨[1], fun _ => .takeAtMost 3, none⟩
    let c : Constraint := ⟨.instanceOf, .format "a \"b\" \\ \n\r\t"⟩
    let d : Constraint := ⟨.subclassOf, .oneOf [⟨"5", by decide⟩, ⟨"42", by decide⟩]⟩
    let calls := [Call.render (some c), Call.render none, Call.renderAll [d]]
    IsIriText settings.entityNamespace ∧ IsIriText settings.vocabularyNamespace ∧
      s.NeverCloses ∧
      ∃ (text : Text) (lines : List Text) (groups : List (List Triple)),
        ((new (triples settings) s).run calls).2.channel.received = text.utf8 ∧
        text.lines = lines ++ [[]] ∧
        List.Forall₂ (fun line x => ∀ y, IsStatement line y ↔ y = x) lines groups.flatten ∧
        List.Forall₂ (fun ic group => IsGroup settings (ic.2 + 1) ic.1 group) [(c, 0), (d, 1)]
          groups ∧
        ∀ i j group, groups[i]? = some group → i ≠ j → ∀ x ∈ group,
          x.subject ≠ nodeOf (j + 1) ∧ x.object ≠ nodeOf (j + 1) := by
  intro settings s c d calls
  have he : IsIriText settings.entityNamespace := by decide
  have hv : IsIriText settings.vocabularyNamespace := by decide
  have hs : s.NeverCloses := fun call h => by cases h.2
  exact ⟨he, hv, hs, lines_received_triples he hv hs calls⟩

end Writer

end Output

end WikiAxioms
