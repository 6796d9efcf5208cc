import WikiAxioms.Output.Writer
import WikiAxioms.Proofs.Output.Backend
import WikiAxioms.Proofs.Output.Sink
import WikiAxioms.Proofs.Text.Utf8

/-!
# Runs of a writer

A run is any sequence of calls on one fresh writer. What a run leaves behind depends only on the
supported constraints that were submitted: as long as the sink takes everything, it holds the
document of them. One invariant carries all that is said about runs: either no call was at fault
and the sink holds the document, or the sink closed within one piece of it and every later call
leaves things as they are.
-/

namespace WikiAxioms.Output

/-- A call of a writer. -/
inductive Call where
  | render (c : Option Constraint)
  | renderAll (cs : List Constraint)

/-- The constraints that a call submits. -/
def Call.submitted : Call → List Constraint
  | render c => c.toList
  | renderAll cs => cs

/-- What a call returns. -/
inductive Reply where
  | rendered (result : Except RenderFault Unit)
  | summarized (result : Except SinkFault Summary)

/-- Whether a call was ended by the sink. -/
def Reply.isFault : Reply → Bool
  | rendered (.ok ()) => false
  | rendered (.error (.unsupported _)) => false
  | rendered (.error (.sink _)) => true
  | summarized (.ok _) => false
  | summarized (.error _) => true

/-- What a call returns as long as the sink takes everything: a constraint that is rendered on its
own is refused if and only if the backend does not support it. -/
def Call.IsAnsweredBy (b : Backend) : Call → Reply → Prop
  | render none, reply => reply = .rendered (.ok ())
  | render (some c), reply => reply = .rendered
      (if b.supports c.kind then .ok () else .error (.unsupported ⟨c.kind, b.name⟩))
  | renderAll _, reply => ∃ summary, reply = .summarized (.ok summary)

namespace Writer

/-- A flag that is never raised. -/
abbrev neverRaised : Nat → Writer → Bool := fun _ _ => false

/-- Performs a call. -/
def perform (w : Writer) : Call → Reply × Writer
  | .render c => (.rendered (w.render c).1, (w.render c).2)
  | .renderAll cs =>
    (.summarized (w.renderAll neverRaised cs).1, (w.renderAll neverRaised cs).2)

/-- Performs calls in order. -/
def run (w : Writer) : List Call → List Reply × Writer
  | [] => ([], w)
  | call :: calls =>
    ((w.perform call).1 :: ((w.perform call).2.run calls).1, ((w.perform call).2.run calls).2)

@[simp] theorem backend_warn (w : Writer) (kind : Kind) : (w.warn kind).backend = w.backend := by
  rw [warn]; split <;> rfl

@[simp] theorem channel_warn (w : Writer) (kind : Kind) : (w.warn kind).channel = w.channel := by
  rw [warn]; split <;> rfl

@[simp] theorem written_warn (w : Writer) (kind : Kind) : (w.warn kind).written = w.written := by
  rw [warn]; split <;> rfl

@[simp] theorem preludeDone_warn (w : Writer) (kind : Kind) :
    (w.warn kind).preludeDone = w.preludeDone := by
  rw [warn]; split <;> rfl

/-- The writer after its sink took a text. -/
def counted (w : Writer) (text : Text) : Writer :=
  { w with
    channel := (w.channel.writeAll text.utf8).2
    preludeDone := true
    written := w.written + 1 }

/-- The writer after its sink did not take all of a text. -/
def cutOff (w : Writer) (text : Text) : Writer :=
  { w with channel := (w.channel.writeAll text.utf8).2 }

theorem send_of_ok {w : Writer} {text : Text} (h : (w.channel.writeAll text.utf8).1 = .ok ()) :
    w.send text = (.ok (), w.counted text) := by
  rw [send, counted]
  split <;> simp_all

theorem send_of_error {w : Writer} {text : Text} {fault : SinkFault}
    (h : (w.channel.writeAll text.utf8).1 = .error fault) :
    w.send text = (.error (.sink fault), w.cutOff text) := by
  rw [send, cutOff]
  split <;> simp_all

/-- What is to be sent for a constraint. -/
def due (w : Writer) (c : Constraint) : Text :=
  w.duePrelude ++ w.backend.blockText (w.written + 1) c

theorem write_eq_send {w : Writer} {c : Constraint} (hb : w.backend.IsLawful)
    (hc : w.backend.supports c.kind = true) : w.write c = w.send (w.due c) := by
  rw [write, hb.append_of_supports hc, due]

theorem due_ne_nil {w : Writer} {c : Constraint} (hb : w.backend.IsLawful)
    (hc : w.backend.supports c.kind = true) : w.due c ≠ [] :=
  List.append_ne_nil_of_right_ne_nil _ (hb.blockText_ne_nil hc _)

/-- A constraint is refused, or it is written, or the sink is at fault. -/
theorem write_cases {w : Writer} (hb : w.backend.IsLawful) (c : Constraint) :
    (w.backend.supports c.kind = false ∧
      w.write c = (.error (.unsupported ⟨c.kind, w.backend.name⟩), w.warn c.kind)) ∨
    (w.backend.supports c.kind = true ∧ (w.channel.writeAll (w.due c).utf8).1 = .ok () ∧
      w.write c = (.ok (), w.counted (w.due c))) ∨
    (w.backend.supports c.kind = true ∧ ∃ fault,
      (w.channel.writeAll (w.due c).utf8).1 = .error fault ∧
        w.write c = (.error (.sink fault), w.cutOff (w.due c))) := by
  cases hc : w.backend.supports c.kind with
  | false => exact .inl ⟨rfl, by rw [write, hb.refuses _ hc]⟩
  | true =>
    have hw := write_eq_send hb hc
    cases hs : (w.channel.writeAll (w.due c).utf8).1 with
    | ok _ => exact .inr (.inl ⟨rfl, rfl, by rw [hw, send_of_ok hs]⟩)
    | error fault => exact .inr (.inr ⟨rfl, fault, rfl, by rw [hw, send_of_error hs]⟩)

section Turns

variable {raised : Nat → Writer → Bool} {turn : Nat} {w : Writer} {c : Constraint}

theorem renderFrom_cons_of_ok (hr : raised turn w = false) (hw : (w.write c).1 = .ok ())
    (summary : Summary) (cs : List Constraint) :
    renderFrom raised turn summary w (c :: cs) =
      renderFrom raised (turn + 1) { summary with rendered := summary.rendered + 1 }
        (w.write c).2 cs := by
  have hp : w.write c = (_, (w.write c).2) := Prod.ext hw rfl
  rw [renderFrom, hr, if_neg Bool.false_ne_true, hp]

theorem renderFrom_cons_of_unsupported (hr : raised turn w = false) {refusal : Unsupported}
    (hw : (w.write c).1 = .error (.unsupported refusal)) (summary : Summary)
    (cs : List Constraint) :
    renderFrom raised turn summary w (c :: cs) =
      renderFrom raised (turn + 1)
        { summary with unsupported := Summary.countKind refusal.kind summary.unsupported }
        (w.write c).2 cs := by
  have hp : w.write c = (_, (w.write c).2) := Prod.ext hw rfl
  rw [renderFrom, hr, if_neg Bool.false_ne_true, hp]

theorem renderFrom_cons_of_fault (hr : raised turn w = false) {fault : SinkFault}
    (hw : (w.write c).1 = .error (.sink fault)) (summary : Summary) (cs : List Constraint) :
    renderFrom raised turn summary w (c :: cs) = (.error fault, (w.write c).2) := by
  have hp : w.write c = (_, (w.write c).2) := Prod.ext hw rfl
  rw [renderFrom, hr, if_neg Bool.false_ne_true, hp]

end Turns

variable {b : Backend} {s : Sink} {cs done : List Constraint} {c : Constraint} {w : Writer}

/-- What a writer and its sink hold: the document of `done`, then the bytes `part`. -/
structure Holds (b : Backend) (s : Sink) (done : List Constraint) (part : List UInt8)
    (w : Writer) : Prop where
  backend : w.backend = b
  sink : w.channel.sink = s
  received : w.channel.received = (b.document done).utf8 ++ part
  written : w.written = done.length
  preludeDone : w.preludeDone = !done.isEmpty

/-- The sink closed within the piece of `c`, which stands behind `done`. -/
structure BrokenAt (b : Backend) (s : Sink) (done : List Constraint) (c : Constraint)
    (w : Writer) : Prop where
  holds : ∃ part missing, part ++ missing = (b.piece done.length c).utf8 ∧ missing ≠ [] ∧
    w.Holds b s done part
  closed : w.channel.IsClosed
  refuses : ∃ call, s.Refuses call

/-- Where a run stands after the supported constraints `cs` were submitted, and whether the sink has
been at fault. -/
inductive Stands (b : Backend) (s : Sink) (cs : List Constraint) (w : Writer) : Bool → Prop
  | whole : w.Holds b s cs [] → Stands b s cs w false
  | broken {done rest : List Constraint} {c : Constraint} : cs = done ++ c :: rest →
      w.BrokenAt b s done c → Stands b s cs w true

theorem holds_new (b : Backend) (s : Sink) : (new b s).Holds b s [] [] where
  backend := rfl
  sink := rfl
  received := rfl
  written := rfl
  preludeDone := rfl

theorem Holds.warn {part : List UInt8} (h : w.Holds b s done part) (kind : Kind) :
    (w.warn kind).Holds b s done part where
  backend := by rw [backend_warn, h.backend]
  sink := by rw [channel_warn, h.sink]
  received := by rw [channel_warn, h.received]
  written := by rw [written_warn, h.written]
  preludeDone := by rw [preludeDone_warn, h.preludeDone]

theorem Holds.due_eq {part : List UInt8} (h : w.Holds b s done part) (c : Constraint) :
    w.due c = b.piece done.length c := by
  rw [due, duePrelude, Backend.piece, h.backend, h.written, h.preludeDone]
  cases done <;> simp

/-- A piece that is taken makes the document longer. -/
theorem Holds.counted (h : w.Holds b s done [])
    (ho : (w.channel.writeAll (w.due c).utf8).1 = .ok ()) :
    (w.counted (w.due c)).Holds b s (done ++ [c]) [] where
  backend := h.backend
  sink := by rw [Writer.counted, Channel.sink_writeAll, h.sink]
  received := by
    rw [Writer.counted, Channel.received_writeAll_of_ok ho, h.received, h.due_eq,
      Backend.document_append, Text.utf8_append]
    simp
  written := by rw [Writer.counted, h.written, List.length_append]; rfl
  preludeDone := by simp [Writer.counted]

/-- A piece that is not taken breaks the run. -/
theorem Holds.brokenAt (hs : s.StaysClosed) (h : w.Holds b s done []) {fault : SinkFault}
    (he : (w.channel.writeAll (w.due c).utf8).1 = .error fault) :
    (w.cutOff (w.due c)).BrokenAt b s done c where
  holds := by
    obtain ⟨part, missing, hp, hm, hr⟩ := Channel.received_writeAll_of_error he
    refine ⟨part, missing, by rw [hp, h.due_eq], hm, ?_⟩
    exact
      { backend := h.backend
        sink := by rw [cutOff, Channel.sink_writeAll, h.sink]
        received := by rw [cutOff, hr, h.received, List.append_nil]
        written := h.written
        preludeDone := h.preludeDone }
  closed := Channel.isClosed_writeAll_of_error (by rw [h.sink]; exact hs) he
  refuses := by
    obtain ⟨call, hc⟩ := Channel.exists_refuses_of_error he
    exact ⟨call, h.sink ▸ hc⟩

/-- After the break nothing is sent. -/
theorem BrokenAt.cutOff (h : w.BrokenAt b s done c) {text : Text} (ht : text ≠ []) :
    (∃ fault, (w.channel.writeAll text.utf8).1 = .error fault) ∧
      (w.cutOff text).BrokenAt b s done c := by
  obtain ⟨part, missing, hp, hm, hw⟩ := h.holds
  obtain ⟨hf, hr, hc⟩ := Channel.writeAll_of_isClosed h.closed (mt Text.utf8_eq_nil_iff.mp ht)
  refine ⟨hf, ⟨part, missing, hp, hm, ?_⟩, hc, h.refuses⟩
  exact
    { backend := hw.backend
      sink := by rw [Writer.cutOff, Channel.sink_writeAll, hw.sink]
      received := by rw [Writer.cutOff, hr, hw.received]
      written := hw.written
      preludeDone := hw.preludeDone }

theorem BrokenAt.warn (h : w.BrokenAt b s done c) (kind : Kind) :
    (w.warn kind).BrokenAt b s done c where
  holds := by
    obtain ⟨part, missing, hp, hm, hw⟩ := h.holds
    exact ⟨part, missing, hp, hm, hw.warn kind⟩
  closed := by rw [channel_warn]; exact h.closed
  refuses := h.refuses

theorem Stands.backend {failed : Bool} (h : Stands b s cs w failed) : w.backend = b := by
  cases h with
  | whole h => exact h.backend
  | broken _ h =>
    obtain ⟨_, _, _, _, hw⟩ := h.holds
    exact hw.backend

/-- What is submitted after the break makes no difference. -/
theorem Stands.append (h : Stands b s cs w true) (ds : List Constraint) :
    Stands b s (cs ++ ds) w true := by
  cases h with
  | broken he h => exact .broken (by rw [he, List.append_assoc, List.cons_append]) h

/-- Writing one constraint keeps the invariant. -/
theorem Stands.write (hb : b.IsLawful) (hs : s.StaysClosed) {failed : Bool}
    (h : Stands b s cs w failed) (c : Constraint) :
    Stands b s (cs ++ b.supported [c]) (w.write c).2
      (failed || (Reply.rendered (w.write c).1).isFault) := by
  obtain rfl := h.backend
  rcases write_cases hb c with ⟨hc, hw⟩ | ⟨hc, ho, hw⟩ | ⟨hc, fault, he, hw⟩
  · rw [hw, Backend.supported_cons_of_not_supports hc]
    cases h with
    | whole h => simpa [Reply.isFault] using .whole (h.warn _)
    | broken he h => simpa [Reply.isFault] using .broken he (h.warn _)
  · rw [hw, Backend.supported_cons_of_supports hc]
    cases h with
    | whole h => exact .whole (h.counted ho)
    | broken he h =>
      -- a closed sink does not take a piece, for no piece is empty
      obtain ⟨⟨fault, hf⟩, -⟩ := h.cutOff (due_ne_nil hb hc)
      rw [ho] at hf
      cases hf
  · rw [hw, Backend.supported_cons_of_supports hc]
    cases h with
    | whole h => exact .broken rfl (h.brokenAt hs he)
    | broken heq h =>
      exact (Stands.broken heq (h.cutOff (due_ne_nil hb hc)).2).append _

/-- Writing constraints until the first fault keeps the invariant. -/
theorem Stands.renderFrom (hb : b.IsLawful) (hs : s.StaysClosed) {failed : Bool}
    (h : Stands b s cs w failed) (turn : Nat) (summary : Summary) (ds : List Constraint) :
    Stands b s (cs ++ b.supported ds) (Writer.renderFrom neverRaised turn summary w ds).2
      (failed ||
        (Reply.summarized (Writer.renderFrom neverRaised turn summary w ds).1).isFault) := by
  induction ds generalizing cs w failed turn summary with
  | nil => simpa [Writer.renderFrom, Reply.isFault] using h
  | cons d ds ih =>
    have hd := h.write hb hs d
    have hsplit : b.supported (d :: ds) = b.supported [d] ++ b.supported ds :=
      b.supported_append [d] ds
    rw [hsplit, ← List.append_assoc]
    match hw : (w.write d).1 with
    | .ok () =>
      rw [hw, Reply.isFault, Bool.or_false] at hd
      rw [renderFrom_cons_of_ok rfl hw]
      exact ih hd _ _
    | .error (.unsupported refusal) =>
      rw [hw, Reply.isFault, Bool.or_false] at hd
      rw [renderFrom_cons_of_unsupported rfl hw]
      exact ih hd _ _
    | .error (.sink fault) =>
      rw [hw, Reply.isFault, Bool.or_true] at hd
      rw [renderFrom_cons_of_fault rfl hw, Reply.isFault, Bool.or_true]
      exact hd.append _

/-- Every call keeps the invariant. -/
theorem Stands.perform (hb : b.IsLawful) (hs : s.StaysClosed) {failed : Bool}
    (h : Stands b s cs w failed) (call : Call) :
    Stands b s (cs ++ b.supported call.submitted) (w.perform call).2
      (failed || (w.perform call).1.isFault) := by
  cases call with
  | render c? =>
    cases c? with
    | none =>
      simpa [Writer.perform, Writer.render, Call.submitted, Reply.isFault] using h
    | some c => exact h.write hb hs c
  | renderAll ds => exact h.renderFrom hb hs 0 .empty ds

/-- A whole run keeps the invariant. -/
theorem Stands.run (hb : b.IsLawful) (hs : s.StaysClosed) {failed : Bool}
    (h : Stands b s cs w failed) (calls : List Call) :
    Stands b s (cs ++ b.supported (calls.flatMap Call.submitted)) (w.run calls).2
      (failed || (w.run calls).1.any Reply.isFault) := by
  induction calls generalizing cs w failed with
  | nil => simpa [Writer.run] using h
  | cons call calls ih =>
    have hc := ih (h.perform hb hs call)
    rw [List.flatMap_cons, Backend.supported_append, ← List.append_assoc, Writer.run,
      List.any_cons, ← Bool.or_assoc]
    exact hc

/-- A sink that never closes breaks no run. -/
theorem Stands.eq_false_of_neverCloses (hs : s.NeverCloses) {failed : Bool}
    (h : Stands b s cs w failed) : failed = false := by
  cases h with
  | whole => rfl
  | broken _ h =>
    obtain ⟨call, hc⟩ := h.refuses
    exact absurd hc (hs call)

/-- A run over a sink that never closes holds the document. -/
theorem holds_run_of_neverCloses (hb : b.IsLawful) (hs : s.NeverCloses) (calls : List Call) :
    ((new b s).run calls).2.Holds b s (b.supported (calls.flatMap Call.submitted)) [] ∧
      ((new b s).run calls).1.any Reply.isFault = false := by
  have stands := (Stands.whole (holds_new b s)).run hb hs.staysClosed calls
  have unbroken := stands.eq_false_of_neverCloses hs
  rw [unbroken] at stands
  cases stands with
  | whole h => exact ⟨h, unbroken⟩

theorem received_run_of_neverCloses (hb : b.IsLawful) (hs : s.NeverCloses) (calls : List Call) :
    ((new b s).run calls).2.channel.received =
      (b.document (b.supported (calls.flatMap Call.submitted))).utf8 := by
  rw [(holds_run_of_neverCloses hb hs calls).1.received, List.append_nil]

/-- Unless the sink is at fault, constraints are refused exactly if they are not supported. -/
theorem isAnsweredBy_perform (hb : w.backend.IsLawful) {call : Call}
    (h : (w.perform call).1.isFault = false) : call.IsAnsweredBy w.backend (w.perform call).1 := by
  cases call with
  | render c? =>
    cases c? with
    | none => rfl
    | some c =>
      rw [perform, render] at h ⊢
      rcases write_cases hb c with ⟨hc, hw⟩ | ⟨hc, -, hw⟩ | ⟨-, fault, -, hw⟩
      · simp [Call.IsAnsweredBy, hw, hc]
      · simp [Call.IsAnsweredBy, hw, hc]
      · simp [hw, Reply.isFault] at h
  | renderAll cs =>
    rw [perform] at h ⊢
    cases hr : (w.renderAll neverRaised cs).1 with
    | ok summary => exact ⟨summary, rfl⟩
    | error fault => simp [hr, Reply.isFault] at h

/-- The replies of a run that is not broken. -/
theorem Stands.forall₂_isAnsweredBy (hb : b.IsLawful) (hs : s.StaysClosed) {failed : Bool}
    (h : Stands b s cs w failed) {calls : List Call}
    (hf : (w.run calls).1.any Reply.isFault = false) :
    List.Forall₂ (Call.IsAnsweredBy b) calls (w.run calls).1 := by
  induction calls generalizing cs w failed with
  | nil => exact .nil
  | cons call calls ih =>
    rw [Writer.run, List.any_cons, Bool.or_eq_false_iff] at hf
    obtain rfl := h.backend
    exact .cons (isAnsweredBy_perform hb hf.1) (ih (h.perform hb hs call) hf.2)

/-- Over a sink that never closes, any run leaves the document of the supported constraints that
were submitted, counts them, and refuses the others one by one. How the constraints are spread over
calls, and what else is submitted, makes no difference to the bytes. -/
theorem run_new_of_neverCloses {settings : RenderSettings}
    (hb : b = functional settings ∨ b = triples settings) (hs : s.NeverCloses)
    (calls : List Call) :
    let cs := b.supported (calls.flatMap Call.submitted)
    let after := (new b s).run calls
    after.2.channel.received = (b.document cs).utf8 ∧ after.2.written = cs.length ∧
      List.Forall₂ (Call.IsAnsweredBy b) calls after.1 ∧
      ∀ calls', b.supported (calls'.flatMap Call.submitted) = cs →
        ((new b s).run calls').2.channel.received = after.2.channel.received := by
  intro cs after
  have hl := isLawful_of_eq hb
  obtain ⟨holds, unbroken⟩ := holds_run_of_neverCloses hl hs calls
  refine ⟨received_run_of_neverCloses hl hs calls, holds.written, ?_, fun calls' hc => ?_⟩
  · exact (Stands.whole (holds_new b s)).forall₂_isAnsweredBy hl hs.staysClosed unbroken
  · rw [received_run_of_neverCloses hl hs, received_run_of_neverCloses hl hs, hc]

/-- Refusals before and behind the first block, and a sink that takes seven bytes at a time. -/
theorem run_new_of_neverCloses_refusals :
    let b := functional { RenderSettings.default with prelude := true }
    let s : Sink := ⟨[2], fun _ => .takeAtMost 7, none⟩
    let p := PropertyId.instanceOf
    let calls : List Call :=
      [.render none, .render (some ⟨p, .existingFile⟩),
        .renderAll [⟨p, .symmetric⟩, ⟨p, .multiValue⟩], .render (some ⟨p, .singleValue⟩)]
    let after := (new b s).run calls
    s.NeverCloses ∧
      after.2.channel.received = (b.document [⟨p, .symmetric⟩, ⟨p, .singleValue⟩]).utf8 ∧
      after.2.written = 2 ∧ List.Forall₂ (Call.IsAnsweredBy b) calls after.1 := by
  intro b s p calls after
  have hs : s.NeverCloses := fun call h => by cases h.2
  obtain ⟨hr, hw, ha, -⟩ := run_new_of_neverCloses (.inl rfl) hs calls
  exact ⟨hs, hr, hw, ha⟩

end Writer

end WikiAxioms.Output
