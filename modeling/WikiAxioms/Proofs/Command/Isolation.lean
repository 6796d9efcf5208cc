import WikiAxioms.Command.Outcome
import WikiAxioms.Proofs.Command.Table
import WikiAxioms.Proofs.Output.Run

/-!
# Isolation of failures

What the command makes of a source that it can read. Each declaration compiles or fails for itself,
so the output is that of the constraints that came about, and whatever else stands in a table shows
in the exit code and nowhere in the output.
-/

namespace WikiAxioms.Command

open WikiAxioms.Catalog WikiAxioms.Output

variable {r : Registry}

/-- What a declaration of a source comes to. -/
def constraintOf? (r : Registry) (e : PropertyId × Text) : Option Constraint :=
  (compile r e.1 e.2).1.toOption

theorem filterMap_toOption_compileAll (es : List (PropertyId × Text)) :
    (compileAll r es).filterMap Except.toOption = es.filterMap (constraintOf? r) := by
  rw [compileAll, List.filterMap_map]
  rfl

/-- An entry adds its constraint to a batch, or a failure. -/
theorem Batch.add_eq (b : Batch) (e : SourceEntry) :
    (b.add r e).constraints = b.constraints ++ (constraintOf? r e.pair).toList ∧
      (b.add r e).failures = b.failures + if (constraintOf? r e.pair).isSome then 0 else 1 := by
  rw [Batch.add, constraintOf?, SourceEntry.pair]
  match (compile r e.property e.declaration).1 with
  | .ok c => exact ⟨rfl, rfl⟩
  | .error (.syntactic fault) => exact ⟨(List.append_nil _).symm, rfl⟩
  | .error (.building fault) => exact ⟨(List.append_nil _).symm, rfl⟩

theorem Batch.foldl_add (es : List SourceEntry) (b : Batch) :
    (es.foldl (Batch.add r) b).constraints =
        b.constraints ++ (es.map SourceEntry.pair).filterMap (constraintOf? r) ∧
      (es.foldl (Batch.add r) b).failures =
        b.failures + (es.map SourceEntry.pair).countP (fun e => (constraintOf? r e).isNone) := by
  induction es generalizing b with
  | nil => simp
  | cons e es ih =>
    obtain ⟨hc, hf⟩ := b.add_eq (r := r) e
    obtain ⟨ihc, ihf⟩ := ih (b.add r e)
    rw [List.foldl_cons, ihc, ihf, hc, hf, List.map_cons, List.filterMap_cons, List.countP_cons]
    cases constraintOf? r e.pair <;> simp [Nat.add_assoc, Nat.add_comm]

theorem Batch.constraints_ofEntries (es : List SourceEntry) :
    (Batch.ofEntries r es).constraints =
      (es.map SourceEntry.pair).filterMap (constraintOf? r) := by
  rw [Batch.ofEntries, (Batch.foldl_add es _).1, List.nil_append]

theorem Batch.failures_ofEntries_eq_zero_iff (es : List SourceEntry) :
    (Batch.ofEntries r es).failures = 0 ↔
      ∀ e ∈ es.map SourceEntry.pair, ∃ c, (compile r e.1 e.2).1 = .ok c := by
  rw [Batch.ofEntries, (Batch.foldl_add es _).2, Nat.zero_add, List.countP_eq_zero]
  refine forall₂_congr fun e _ => ?_
  rw [constraintOf?]
  cases (compile r e.1 e.2).1 <;> simp [Except.toOption]

/-- What a source declares, in order. -/
def Options.Declares (o : Options) (t : Text) (es : List (PropertyId × Text)) : Prop :=
  match o.inputFormat with
  | .tsv => Tabulates (t.splitOn '\n') es
  | .page => ∃ p, o.property = some p ∧ es = (Markup.declarations t).map fun d => (p, d.text)

/-- Nothing in a source is amiss: no line of a table is malformed, and every declaration
compiles. -/
def Options.IsClean (o : Options) (r : Registry) (t : Text) : Prop :=
  (o.inputFormat = .tsv → ∀ l ∈ t.splitOn '\n', IsIdle l ∨ ∃ p d, IsEntryLine l p d) ∧
    ∀ es, o.Declares t es → ∀ e ∈ es, ∃ c, (compile r e.1 e.2).1 = .ok c

/-- A line of a table that comes to a constraint. -/
def Contributes (r : Registry) (l : Text) : Prop :=
  ∃ p d c, IsEntryLine l p d ∧ (compile r p d).1 = .ok c

/-- Lines that do not contribute, whatever the reason is, come to nothing. -/
theorem bind_entryOf?_eq_none_iff {l : Text} :
    (entryOf? l).bind (constraintOf? r) = none ↔ ¬ Contributes r l := by
  rw [Option.bind_eq_none_iff]
  constructor
  · rintro h ⟨p, d, c, hl, hc⟩
    have hn := h (p, d) (entryOf?_eq_some_iff.mpr hl)
    rw [constraintOf?, hc] at hn
    cases hn
  · rintro h ⟨p, d⟩ he
    cases hc : (compile r p d).1 with
    | ok c => exact absurd ⟨p, d, c, entryOf?_eq_some_iff.mp he, hc⟩ h
    | error fault => rw [constraintOf?, hc]; rfl

/-- Tables that differ in lines that do not contribute come to the same constraints. -/
theorem filterMap_constraintOf?_of_edited {o : Options} (hf : o.inputFormat = .tsv) {t t' : Text}
    {es es' : List (PropertyId × Text)} (h : o.Declares t es) (h' : o.Declares t' es')
    (hedit : Edited (fun l => ¬ Contributes r l) (t.splitOn '\n') (t'.splitOn '\n')) :
    es.filterMap (constraintOf? r) = es'.filterMap (constraintOf? r) := by
  rw [Options.Declares, hf] at h h'
  rw [tabulates_iff.mp h, tabulates_iff.mp h', List.filterMap_filterMap, List.filterMap_filterMap]
  exact hedit.filterMap_eq fun _ => bind_entryOf?_eq_none_iff.mpr

theorem map_pair_pageEntries (p : PropertyId) (t : Text) :
    (pageEntries p t).map SourceEntry.pair =
      (Markup.declarations t).map fun d => (p, d.text) := by
  rw [pageEntries, List.map_map]
  rfl

/-- The entries that the command takes from a source, and the lines that it counts. -/
theorem entries_eq_ok {o : Options} (hp : o.inputFormat = .page → ∃ p, o.property = some p)
    (t : Text) : ∃ es malformed, o.entries t = .ok (es, malformed) ∧
      (∀ ds, o.Declares t ds ↔ ds = es.map SourceEntry.pair) ∧
      (malformed = 0 ↔ (o.inputFormat = .tsv →
        ∀ l ∈ t.splitOn '\n', IsIdle l ∨ ∃ p d, IsEntryLine l p d)) := by
  cases hf : o.inputFormat with
  | tsv =>
    refine ⟨tableEntries t, malformedLines t, by rw [Options.entries, hf], fun ds => ?_, ?_⟩
    · rw [Options.Declares, hf, map_pair_tableEntries]
      exact tabulates_iff
    · rw [malformedLines_eq_zero_iff]
      simp
  | page =>
    obtain ⟨p, hp⟩ := hp hf
    refine ⟨pageEntries p t, 0, by rw [Options.entries, hf, hp], fun ds => ?_, by simp⟩
    rw [Options.Declares, hf, map_pair_pageEntries]
    simp [hp]

/-- What the command puts out: the constraints of a source, rendered in order. -/
theorem outcome_of_declares {o : Options} (hk : o.listKinds = false)
    (hp : o.inputFormat = .page → ∃ p, o.property = some p) (check : PatternCheck) (s : Settings)
    (t : Text) : ∃ es, (∀ ds, o.Declares t ds ↔ ds = es) ∧ ∃ reports complete,
      o.outcome check s (.ok t) = .output o.output reports
        (render (o.backend s) (es.filterMap (constraintOf? (.standard check s.policy)))) complete ∧
      (complete = true ↔ o.IsClean (.standard check s.policy) t) := by
  obtain ⟨es, malformed, he, hd, hm⟩ := entries_eq_ok hp t
  let batch := Batch.ofEntries (.standard check s.policy) es
  have houtcome : o.outcome check s (.ok t) = .output o.output batch.reports.flatten
      (render (o.backend s) batch.constraints) (malformed + batch.failures == 0) := by
    rw [Options.outcome, hk, if_neg Bool.false_ne_true]
    simp only [he]
    rfl
  rw [Batch.constraints_ofEntries] at houtcome
  refine ⟨es.map SourceEntry.pair, hd, _, _, houtcome, ?_⟩
  rw [beq_iff_eq, Nat.add_eq_zero_iff, hm, Batch.failures_ofEntries_eq_zero_iff, Options.IsClean]
  simp only [hd, forall_eq]

/-- Given a source that it can read, the command renders the constraints of the declarations that
compile, in order, and says by its exit code whether anything was amiss. Lines of a table that come
to no constraint may be deleted and inserted anywhere without a change of the output. -/
theorem outcome_isolates_failures {o : Options} (hk : o.listKinds = false)
    (hp : o.inputFormat = .page → ∃ p, o.property = some p) (check : PatternCheck) (s : Settings)
    (t : Text) :
    let r := Registry.standard check s.policy
    ∃ es, (∀ ds, o.Declares t ds ↔ ds = es) ∧
      let cs := (compileAll r es).filterMap Except.toOption
      let bytes :=
        ((Writer.new (o.backend s) .willing).renderAll Writer.neverRaised cs).2.channel.received
      let code := ((o.outcome check s (.ok t)).appearance (.ok ())).code
      (∃ reports complete, o.outcome check s (.ok t) = .output o.output reports bytes complete) ∧
        (o.IsClean r t → code = 0) ∧ (¬ o.IsClean r t → code = 1) ∧
        (o.inputFormat = .tsv → ∀ t',
          Edited (fun l => ¬ Contributes r l) (t.splitOn '\n') (t'.splitOn '\n') →
            ∃ reports complete,
              o.outcome check s (.ok t') = .output o.output reports bytes complete) := by
  intro r
  obtain ⟨es, hd, reports, complete, ho, hc⟩ := outcome_of_declares hk hp check s t
  refine ⟨es, hd, ?_⟩
  intro cs bytes code
  have hbytes : bytes = render (o.backend s) (es.filterMap (constraintOf? r)) := by
    rw [← filterMap_toOption_compileAll]
    rfl
  have hcode : code = if complete then 0 else 1 := by
    change ((o.outcome check s (.ok t)).appearance (.ok ())).code = _
    rw [ho]
    rfl
  refine ⟨⟨reports, complete, by rw [hbytes]; exact ho⟩, fun h => ?_, fun h => ?_, ?_⟩
  · rw [hcode, hc.mpr h]
    rfl
  · rw [hcode, Bool.eq_false_iff.mpr (mt hc.mp h)]
    rfl
  · intro hf t' hedit
    obtain ⟨es', hd', reports', complete', ho', -⟩ := outcome_of_declares hk hp check s t'
    have hsame := filterMap_constraintOf?_of_edited hf ((hd es).mpr rfl) ((hd' es').mpr rfl) hedit
    exact ⟨reports', complete', by rw [ho', hbytes, hsame]⟩

/-- A table with a line of each sort, and the one line of it that contributes. -/
theorem outcome_isolates_failures_sorts :
    let o := Options.default
    let check : PatternCheck := fun _ => .ok ()
    let good : Text := "P31\t\x7b\x7bConstraint:Symmetric\x7d\x7d"
    let t : Text := " \n# P31\t\n" ++ good ++ "\n31\tx\nP31 x\nP31\tx"
    let outcome := o.outcome check .default (.ok t)
    let bytes := ((Writer.new (o.backend .default) .willing).renderAll Writer.neverRaised
      [⟨.instanceOf, .symmetric⟩]).2.channel.received
    o.listKinds = false ∧ (o.inputFormat = .page → ∃ p, o.property = some p) ∧
      (∃ reports complete, outcome = .output none reports bytes complete) ∧
      (outcome.appearance (.ok ())).code = 1 ∧
      ∃ reports complete,
        o.outcome check .default (.ok good) = .output none reports bytes complete := by
  intro o check good t outcome bytes
  let r := Registry.standard check .ignore
  have hp : o.inputFormat = .page → ∃ p, o.property = some p := nofun
  obtain ⟨es, hd, ho, -, hdirty, hedit⟩ := outcome_isolates_failures rfl hp check .default t
  have hes : es = [(.instanceOf, good.drop 4), (.instanceOf, "x")] :=
    (tabulates_iff.mp ((hd es).mpr rfl)).trans (by decide +kernel)
  have hcs : (compileAll r es).filterMap Except.toOption = [⟨.instanceOf, .symmetric⟩] := by
    rw [hes, filterMap_toOption_compileAll]
    decide +kernel
  have hlines : t.splitOn '\n' = [[' '], "# P31\t", good, "31\tx", "P31 x", "P31\tx"] := by
    decide +kernel
  have hgood : good.splitOn '\n' = [good] := by decide +kernel
  have idle (l : Text) (h : (entryOf? l).bind (constraintOf? r) = none) : ¬ Contributes r l :=
    bind_entryOf?_eq_none_iff.mp h
  have h : Edited (fun l => ¬ Contributes r l) (t.splitOn '\n') (good.splitOn '\n') := by
    rw [hlines, hgood]
    refine .delete (idle _ ?_) (.delete (idle _ ?_) (.keep good (.delete (idle _ ?_)
      (.delete (idle _ ?_) (.delete (idle _ ?_) .nil)))))
    all_goals decide +kernel
  have hmalformed : ¬ o.IsClean r t := by
    rintro ⟨hl, -⟩
    have hm : malformedLines t = 0 := malformedLines_eq_zero_iff.mpr (hl rfl)
    have hn : malformedLines t = 2 := by decide +kernel
    omega
  rw [show Registry.standard check Settings.default.policy = r from rfl, hcs] at ho hedit
  exact ⟨rfl, hp, ho, hdirty hmalformed, hedit rfl good h⟩

end WikiAxioms.Command
