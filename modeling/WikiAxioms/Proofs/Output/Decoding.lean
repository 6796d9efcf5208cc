import WikiAxioms.Proofs.Entity
import WikiAxioms.Proofs.Output.Literal
import WikiAxioms.Proofs.Output.Run

/-!
# Statements can be read back

Two lists of constraints that are written as the same statements are the same list. The blocks have
neither a length nor an end, so each is told from the next by how lines start: the statements about
a blank node start with it, and a block starts with the property. Within a line every part ends
where its first character says it does, whatever the namespaces are.
-/

namespace WikiAxioms

theorem EntityId.text_injective {kind : EntityKind} {a b : EntityId kind} (h : a.text = b.text) :
    a = b := by
  have he := ofText_text a
  rw [h, ofText_text] at he
  exact (Except.ok.inj he).symm

theorem Decimal.text_injective {a b : Decimal} (h : a.text = b.text) : a = b := by
  have he := ofText_text a
  rw [h, ofText_text] at he
  exact (Except.ok.inj he).symm

theorem EntityId.not_mem_text {kind : EntityKind} (id : EntityId kind) : '>' ∉ id.text := by
  intro h
  rcases isDigit_of_mem_text h with h | h
  · cases kind <;> simp [EntityKind.letter] at h
  · cases h

namespace Output

section Values

variable (settings : RenderSettings)

/-- A value in an entry of a rule: an entity, or a literal with at most the one datatype. -/
inductive IsValue : Node → Prop
  | entity {kind : EntityKind} (id : EntityId kind) : IsValue (entityNode settings id)
  | plain (content : Text) : IsValue (.literal content none)
  | decimal (content : Text) : IsValue (.literal content (some decimalIri))

/-- An entry names a term that ends before the angle bracket behind it, and has a value. -/
def IsEntry (e : Text × Node) : Prop := '>' ∉ e.1 ∧ IsValue settings e.2

variable {settings}

@[simp] theorem entityEntry_inj {term : Text} {kind : EntityKind} {a b : EntityId kind} :
    entityEntry settings term a = entityEntry settings term b ↔ a = b := by
  refine ⟨fun h => ?_, fun h => h ▸ rfl⟩
  exact EntityId.text_injective (List.append_cancel_left (Node.iri.inj (Prod.mk.inj h).2))

@[simp] theorem decimalEntry_inj {term : Text} {a b : Decimal} :
    decimalEntry term a = decimalEntry term b ↔ a = b :=
  ⟨fun h => Decimal.text_injective (Node.literal.inj (Prod.mk.inj h).2).1, fun h => h ▸ rfl⟩

@[simp] theorem map_entityEntry_inj {term : Text} {kind : EntityKind}
    {ids ids' : List (EntityId kind)} :
    ids.map (entityEntry settings term) = ids'.map (entityEntry settings term) ↔ ids = ids' :=
  (List.map_injective_iff.mpr fun _ _ => entityEntry_inj.mp).eq_iff

theorem text_plain (content rest : Text) :
    (Node.literal content none).text ++ rest = quote tripleEscapes content ++ rest :=
  rfl

theorem text_decimal (content rest : Text) :
    (Node.literal content (some decimalIri)).text ++ rest =
      quote tripleEscapes content ++ ('^' :: '^' :: '<' :: decimalIri ++ '>' :: rest) := by
  simp [Node.text]

/-- A value is told from what follows it. -/
theorem IsValue.append_inj {m n : Node} (hm : IsValue settings m) (hn : IsValue settings n)
    {r s : Text} (h : m.text ++ ' ' :: r = n.text ++ ' ' :: s) : m = n ∧ r = s := by
  have literals {a b x y : Text} := @quote_append_inj _ _ isReadable_tripleEscapes a b x y
  cases hm with
  | entity id =>
    cases hn with
    | entity id' =>
      have hc : id.text ++ '>' :: ' ' :: r = id'.text ++ '>' :: ' ' :: s := by
        simpa [entityNode, Node.text] using h
      obtain ⟨ht, hr⟩ := Text.append_cons_inj id.not_mem_text id'.not_mem_text hc
      exact ⟨by rw [entityNode, entityNode, ht], (List.cons.inj hr).2⟩
    | plain => exact absurd (List.cons.inj h).1 (by decide)
    | decimal => exact absurd (List.cons.inj h).1 (by decide)
  | plain content =>
    cases hn with
    | entity => exact absurd (List.cons.inj h).1 (by decide)
    | plain content' =>
      rw [text_plain, text_plain] at h
      obtain ⟨rfl, hr⟩ := literals h
      exact ⟨rfl, (List.cons.inj hr).2⟩
    | decimal content' =>
      rw [text_plain, text_decimal] at h
      exact absurd (List.cons.inj (literals h).2).1 (by decide)
  | decimal content =>
    cases hn with
    | entity => exact absurd (List.cons.inj h).1 (by decide)
    | plain content' =>
      rw [text_plain, text_decimal] at h
      exact absurd (List.cons.inj (literals h).2).1 (by decide)
    | decimal content' =>
      rw [text_decimal, text_decimal] at h
      obtain ⟨rfl, hr⟩ := literals h
      exact ⟨rfl, by simpa using hr⟩

theorem isEntry_entityEntry {term : Text} (ht : '>' ∉ term) {kind : EntityKind}
    (id : EntityId kind) : IsEntry settings (entityEntry settings term id) :=
  ⟨ht, .entity id⟩

theorem isEntry_decimalEntry {term : Text} (ht : '>' ∉ term) (d : Decimal) :
    IsEntry settings (decimalEntry term d) :=
  ⟨ht, .decimal d.text⟩

theorem isEntry_plain {term : Text} (ht : '>' ∉ term) (content : Text) :
    IsEntry settings (term, .literal content none) :=
  ⟨ht, .plain content⟩

/-- No term of the vocabulary has an angle bracket in it, so entries of rules are entries. -/
theorem isEntry_of_mem (rule : Rule) : ∀ e ∈ entriesOf settings rule, IsEntry settings e := by
  cases rule <;>
    simp (disch := decide) [entriesOf, or_imp, forall_and, isEntry_entityEntry,
      isEntry_decimalEntry, isEntry_plain]

/-- An item that may be there is told from exceptions by its term. -/
theorem entries_of_item_inj {item item' : Option ItemId} {exceptions exceptions' : List ItemId}
    (h : item.toList.map (entityEntry settings "item") ++
        exceptions.map (entityEntry settings "exception") =
      item'.toList.map (entityEntry settings "item") ++
        exceptions'.map (entityEntry settings "exception")) :
    item = item' ∧ exceptions = exceptions' := by
  have differ (a b : ItemId) :
      entityEntry settings "item" a ≠ entityEntry settings "exception" b := fun he =>
    absurd (Prod.mk.inj he).1 (by decide)
  cases item with
  | none =>
    cases item' with
    | none => exact ⟨rfl, map_entityEntry_inj.mp h⟩
    | some q' =>
      cases exceptions with
      | nil => cases h
      | cons e es => exact absurd (List.cons.inj h).1.symm (differ q' e)
  | some q =>
    cases item' with
    | none =>
      cases exceptions' with
      | nil => cases h
      | cons e es => exact absurd (List.cons.inj h).1 (differ q e)
    | some q' =>
      obtain ⟨hq, he⟩ := List.cons.inj h
      exact ⟨congrArg some (entityEntry_inj.mp hq), map_entityEntry_inj.mp he⟩

theorem Membership.property_injective {m m' : Membership} (h : m.property = m'.property) :
    m = m' := by
  cases m <;> cases m' <;> first | rfl | exact absurd h (by decide)

/-- The entries of a rule determine it if its kind is known. -/
theorem entriesOf_inj {rule rule' : Rule} (hk : rule.kind = rule'.kind)
    (h : entriesOf settings rule = entriesOf settings rule') : rule = rule' := by
  cases rule with
  | singleValue | uniqueValue | multiValue | symmetric | existingFile =>
    cases rule' <;> cases hk
    rfl
  | type members membership | valueType members membership =>
    cases rule' <;> cases hk
    simp only [entriesOf, List.cons.injEq, entityEntry_inj, and_true] at h
    rw [h.1, Membership.property_injective h.2]
  | targetRequiredClaim required item =>
    cases rule' <;> cases hk
    obtain ⟨hr, hi⟩ := List.cons.inj h
    have hh := congrArg List.head? (map_entityEntry_inj.mp hi)
    rw [Option.head?_toList, Option.head?_toList] at hh
    rw [entityEntry_inj.mp hr, hh]
  | item required item exceptions =>
    cases rule' <;> cases hk
    obtain ⟨hr, ht⟩ := List.cons.inj h
    obtain ⟨hi, he⟩ := entries_of_item_inj ht
    rw [entityEntry_inj.mp hr, hi, he]
  | inverse | format | oneOf | range | diffWithinRange | conflictsWith | qualifiers =>
    cases rule' <;> cases hk
    simpa [entriesOf] using h

end Values

section Lines

variable {settings : RenderSettings} {ordinal : Nat}

/-- The line of an entry is told from what follows it. -/
theorem line_entryStatement_inj {e f : Text × Node} (he : IsEntry settings e)
    (hf : IsEntry settings f) {r s : Text}
    (h : (entryStatement settings ordinal e).line ++ r =
      (entryStatement settings ordinal f).line ++ s) : e = f ∧ r = s := by
  have hc : e.1 ++ '>' :: (' ' :: (e.2.text ++ ' ' :: '.' :: '\n' :: r)) =
      f.1 ++ '>' :: (' ' :: (f.2.text ++ ' ' :: '.' :: '\n' :: s)) := by
    simpa [entryStatement, Statement.line, vocabularyIri] using h
  obtain ⟨ht, hv⟩ := Text.append_cons_inj he.1 hf.1 hc
  obtain ⟨hn, hr⟩ := he.2.append_inj hf.2 (List.cons.inj hv).2
  exact ⟨Prod.ext ht hn, by simpa using hr⟩

theorem head?_line_entryStatement (e : Text × Node) (r : Text) :
    ((entryStatement settings ordinal e).line ++ r).head? = some '_' := by
  simp [entryStatement, Statement.line, Node.text]

/-- The lines of entries are told from what follows them, if that is not about a blank node. -/
theorem lines_entries_inj {es fs : List (Text × Node)} (he : ∀ e ∈ es, IsEntry settings e)
    (hf : ∀ f ∈ fs, IsEntry settings f) {r s : Text} (hr : r.head? ≠ some '_')
    (hs : s.head? ≠ some '_')
    (h : (es.map (entryStatement settings ordinal)).flatMap Statement.line ++ r =
      (fs.map (entryStatement settings ordinal)).flatMap Statement.line ++ s) :
    es = fs ∧ r = s := by
  induction es generalizing fs with
  | nil =>
    cases fs with
    | nil => exact ⟨rfl, h⟩
    | cons f fs =>
      -- one side ends where the other has a line about the blank node
      rw [List.map_cons, List.flatMap_cons, List.append_assoc] at h
      exact absurd ((congrArg List.head? h).trans (head?_line_entryStatement f _)) hr
  | cons e es ih =>
    rw [List.map_cons, List.flatMap_cons, List.append_assoc] at h
    cases fs with
    | nil =>
      exact absurd ((congrArg List.head? h).symm.trans (head?_line_entryStatement e _)) hs
    | cons f fs =>
      rw [List.map_cons, List.flatMap_cons, List.append_assoc] at h
      rw [List.forall_mem_cons] at he hf
      obtain ⟨rfl, ht⟩ := line_entryStatement_inj he.1 hf.1 h
      obtain ⟨rfl, hrs⟩ := ih he.2 hf.2 ht
      exact ⟨rfl, hrs⟩

/-- The name of the class of constraints of a kind. -/
def classTerm (kind : Kind) : Text := kind.camelName ++ "Constraint"

theorem classTerm_injective {k k' : Kind} (h : classTerm k = classTerm k') : k = k' := by
  have find (k : Kind) : Kind.all.find? (fun i => classTerm i == classTerm k) = some k := by
    cases k <;> rfl
  have hk := find k
  rw [h, find k'] at hk
  exact (Option.some.inj hk).symm

theorem not_mem_classTerm (k : Kind) : '>' ∉ classTerm k := by cases k <;> decide

theorem line_attachment_inj {p q : PropertyId} {r s : Text}
    (h : (attachment settings ordinal p).line ++ r = (attachment settings ordinal q).line ++ s) :
    p = q ∧ r = s := by
  let tail : Text := ' ' :: '<' :: vocabularyIri settings "constraint" ++ '>' :: ' ' ::
    (Node.blank ordinal).text ++ [' ', '.', '\n']
  have hc : p.text ++ '>' :: (tail ++ r) = q.text ++ '>' :: (tail ++ s) := by
    simpa [attachment, Statement.line, Node.text, entityNode, tail] using h
  obtain ⟨hp, ht⟩ := Text.append_cons_inj p.not_mem_text q.not_mem_text hc
  exact ⟨EntityId.text_injective hp, List.append_cancel_left ht⟩

theorem line_typing_inj {k l : Kind} {r s : Text}
    (h : (typing settings ordinal k).line ++ r = (typing settings ordinal l).line ++ s) :
    k = l ∧ r = s := by
  have hc : classTerm k ++ '>' :: ([' ', '.', '\n'] ++ r) =
      classTerm l ++ '>' :: ([' ', '.', '\n'] ++ s) := by
    simpa [typing, classTerm, Statement.line, Node.text, vocabularyIri] using h
  obtain ⟨hk, ht⟩ := Text.append_cons_inj (not_mem_classTerm k) (not_mem_classTerm l) hc
  exact ⟨classTerm_injective hk, List.append_cancel_left ht⟩

/-- A block is told from what follows it, if that is not about a blank node. -/
theorem blockText_inj {c d : Constraint} {r s : Text} (hr : r.head? ≠ some '_')
    (hs : s.head? ≠ some '_')
    (h : (triples settings).blockText ordinal c ++ r =
      (triples settings).blockText ordinal d ++ s) : c = d ∧ r = s := by
  simp only [blockText_triples, groupOf, List.flatMap_cons, List.append_assoc] at h
  obtain ⟨hp, h⟩ := line_attachment_inj h
  obtain ⟨hk, h⟩ := line_typing_inj h
  obtain ⟨he, h⟩ := lines_entries_inj (isEntry_of_mem c.rule) (isEntry_of_mem d.rule) hr hs h
  exact ⟨congrArg₂ Constraint.mk hp (entriesOf_inj hk he), h⟩

/-- A block starts with the property, whatever follows it. -/
theorem head?_blockText (c : Constraint) (r : Text) :
    ((triples settings).blockText ordinal c ++ r).head? = some '<' := by
  rw [blockText_triples]
  rfl

/-- Blocks that are numbered from anywhere on. -/
def blocksFrom (settings : RenderSettings) (ordinal : Nat) : List Constraint → Text
  | [] => []
  | c :: cs => (triples settings).blockText ordinal c ++ blocksFrom settings (ordinal + 1) cs

theorem blocks_eq (cs : List Constraint) :
    (triples settings).blocks cs = blocksFrom settings 1 cs := by
  -- the index of a block is counted from the tail, its ordinal is not
  suffices h : ∀ n, (cs.mapIdx fun i c => (triples settings).blockText (i + n) c).flatten =
      blocksFrom settings n cs from h 1
  induction cs with
  | nil => exact fun _ => rfl
  | cons c cs ih =>
    intro n
    have hs : (fun i => (triples settings).blockText (i + 1 + n)) =
        fun i => (triples settings).blockText (i + (n + 1)) := by
      funext i
      rw [Nat.add_right_comm, Nat.add_assoc]
    rw [List.mapIdx_cons, List.flatten_cons, Nat.zero_add, hs, ih, blocksFrom]

theorem head?_blocksFrom (cs : List Constraint) :
    (blocksFrom settings ordinal cs).head? ≠ some '_' := by
  cases cs with
  | nil => simp [blocksFrom]
  | cons c cs => rw [blocksFrom, head?_blockText]; decide

/-- The blocks of a list determine it. -/
theorem blocksFrom_injective {cs ds : List Constraint}
    (h : blocksFrom settings ordinal cs = blocksFrom settings ordinal ds) : cs = ds := by
  induction cs generalizing ds ordinal with
  | nil =>
    cases ds with
    | nil => rfl
    | cons d ds => exact absurd ((congrArg List.head? h).trans (head?_blockText d _)) nofun
  | cons c cs ih =>
    cases ds with
    | nil => exact absurd ((congrArg List.head? h).symm.trans (head?_blockText c _)) nofun
    | cons d ds =>
      obtain ⟨rfl, ht⟩ := blockText_inj (head?_blocksFrom cs) (head?_blocksFrom ds) h
      rw [ih ht]

/-- The document of a list determines it. -/
theorem document_triples_injective {cs ds : List Constraint}
    (h : (triples settings).document cs = (triples settings).document ds) : cs = ds := by
  have document (cs : List Constraint) :
      (triples settings).document cs = blocksFrom settings 1 cs := by
    rw [Backend.document, ← blocks_eq]
    split
    · rename_i hc
      rw [hc]
      rfl
    · rfl
  rw [document, document] at h
  exact blocksFrom_injective h

end Lines

namespace Writer

theorem supported_triples (settings : RenderSettings) (cs : List Constraint) :
    (triples settings).supported cs = cs :=
  List.filter_eq_self.mpr fun _ _ => rfl

/-- Triples determine the constraints that were submitted, however the two runs spread them over
calls and however the two sinks cut the bytes up. -/
theorem submitted_eq_of_received_eq {settings : RenderSettings} {s s' : Sink}
    (hs : s.NeverCloses) (hs' : s'.NeverCloses) {calls calls' : List Call}
    (h : ((new (triples settings) s).run calls).2.channel.received =
      ((new (triples settings) s').run calls').2.channel.received) :
    calls.flatMap Call.submitted = calls'.flatMap Call.submitted := by
  have hb := isLawful_triples settings
  rw [received_run_of_neverCloses hb hs, received_run_of_neverCloses hb hs',
    supported_triples, supported_triples] at h
  exact document_triples_injective (Text.utf8_injective h)

/-- A list at once, and its constraints one by one to a sink that takes three bytes at a time. -/
theorem submitted_eq_of_received_eq_chunks :
    let w := new (triples .default) .willing
    let w' := new (triples .default) ⟨[1], fun _ => .takeAtMost 3, none⟩
    let c : Constraint := ⟨.instanceOf, .format "a \"b\" \\ \n"⟩
    let d : Constraint := ⟨.subclassOf, .oneOf []⟩
    let calls := [Call.renderAll [c, d]]
    let calls' := [Call.render (some c), .render none, .render (some d)]
    (w.run calls).2.channel.received = (w'.run calls').2.channel.received ∧
      calls.flatMap Call.submitted = calls'.flatMap Call.submitted := by
  intro w w' c d calls calls'
  have hs : w'.channel.sink.NeverCloses := fun call h => by cases h.2
  have hb := isLawful_triples .default
  have h : (w.run calls).2.channel.received = (w'.run calls').2.channel.received :=
    (received_run_of_neverCloses hb Sink.neverCloses_willing calls).trans
      (received_run_of_neverCloses hb hs calls').symm
  exact ⟨h, submitted_eq_of_received_eq Sink.neverCloses_willing hs h⟩

end Writer

end Output

end WikiAxioms
