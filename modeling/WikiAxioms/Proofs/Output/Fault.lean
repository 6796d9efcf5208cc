import WikiAxioms.Proofs.Output.Run

/-!
# Runs over a sink that closes

A sink that closes in the middle of a run cuts the output off and does nothing else to it: what it
holds is where the document starts, up to some byte of the piece that it did not take. How it cuts
the bytes up before, and how often it is interrupted, is not seen. The writer counts the pieces
that were taken in full, also within a list that could not be finished.
-/

namespace WikiAxioms.Output

namespace Writer

/-- How a call counts that the sink ended: a constraint on its own is not counted; of a list, the
supported constraints in front of the one that was cut off are. -/
def CountsAtFault (w : Writer) (after : Nat) : Call → Prop
  | .render _ => after = w.written
  | .renderAll cs => ∃ front c rest, cs = front ++ c :: rest ∧
      (∃ summary, (w.renderAll neverRaised front).1 = .ok summary) ∧
      (∃ fault, ((w.renderAll neverRaised front).2.write c).1 = .error (.sink fault)) ∧
      after = w.written + (w.backend.supported front).length

variable {b : Backend} {s : Sink} {cs : List Constraint} {c : Constraint} {w : Writer}

theorem backend_write (hb : w.backend.IsLawful) (c : Constraint) :
    (w.write c).2.backend = w.backend := by
  rcases write_cases hb c with ⟨-, hw⟩ | ⟨-, -, hw⟩ | ⟨-, fault, -, hw⟩
  · rw [hw, backend_warn]
  · rw [hw]; rfl
  · rw [hw]; rfl

/-- A list that the sink cuts off is counted up to the constraint it did not take. -/
theorem written_renderFrom_of_fault (hb : w.backend.IsLawful) {turn : Nat} {summary : Summary}
    {fault : SinkFault} (h : (renderFrom neverRaised turn summary w cs).1 = .error fault) :
    ∃ front c rest, cs = front ++ c :: rest ∧
      (∃ s', (renderFrom neverRaised turn summary w front).1 = .ok s') ∧
      (∃ f, ((renderFrom neverRaised turn summary w front).2.write c).1 = .error (.sink f)) ∧
      (renderFrom neverRaised turn summary w cs).2.written =
        w.written + (w.backend.supported front).length := by
  induction cs generalizing w turn summary with
  | nil => cases h
  | cons c cs ih =>
    have hk := backend_write hb c
    rcases write_cases hb c with ⟨hc, hw⟩ | ⟨hc, -, hw⟩ | ⟨hc, f, -, hw⟩
    · have hu := congrArg Prod.fst hw
      rw [renderFrom_cons_of_unsupported rfl hu] at h ⊢
      obtain ⟨front, d, rest, rfl, hs, hd, hn⟩ := ih (hk ▸ hb) h
      refine ⟨c :: front, d, rest, rfl, ?_⟩
      rw [renderFrom_cons_of_unsupported rfl hu]
      refine ⟨hs, hd, ?_⟩
      rw [hn, hk, Backend.supported_cons_of_not_supports hc, hw, written_warn]
    · have hu := congrArg Prod.fst hw
      have hone : (w.write c).2.written = w.written + 1 := by rw [hw]; rfl
      rw [renderFrom_cons_of_ok rfl hu] at h ⊢
      obtain ⟨front, d, rest, rfl, hs, hd, hn⟩ := ih (hk ▸ hb) h
      refine ⟨c :: front, d, rest, rfl, ?_⟩
      rw [renderFrom_cons_of_ok rfl hu]
      refine ⟨hs, hd, ?_⟩
      rw [hn, hk, hone, Backend.supported_cons_of_supports hc, List.length_cons]
      omega
    · have hu := congrArg Prod.fst hw
      rw [renderFrom_cons_of_fault rfl hu]
      exact ⟨[], c, cs, rfl, ⟨summary, rfl⟩, ⟨f, hu⟩, by rw [hw]; rfl⟩

/-- What a call counts although the sink ended it. -/
theorem countsAtFault_perform (hb : w.backend.IsLawful) {call : Call}
    (h : (w.perform call).1.isFault = true) :
    w.CountsAtFault (w.perform call).2.written call := by
  cases call with
  | render c? =>
    cases c? with
    | none => cases h
    | some c =>
      rw [perform, render] at h ⊢
      rcases write_cases hb c with ⟨-, hw⟩ | ⟨-, -, hw⟩ | ⟨-, fault, -, hw⟩
      · rw [hw] at h; cases h
      · rw [hw] at h; cases h
      · rw [hw]; rfl
  | renderAll cs =>
    rw [perform] at h ⊢
    cases hr : (w.renderAll neverRaised cs).1 with
    | ok summary => rw [hr] at h; cases h
    | error fault => exact written_renderFrom_of_fault hb hr

/-- A broken run holds the document of what was counted and a part of the next piece. -/
theorem BrokenAt.received {done : List Constraint} (h : w.BrokenAt b s done c)
    (rest : List Constraint) :
    ∃ d part missing, (done ++ c :: rest)[w.written]? = some d ∧
      part ++ missing = (b.piece w.written d).utf8 ∧ missing ≠ [] ∧
      w.channel.received = (b.document ((done ++ c :: rest).take w.written)).utf8 ++ part := by
  obtain ⟨part, missing, hp, hm, hw⟩ := h.holds
  refine ⟨c, part, missing, ?_, ?_, hm, ?_⟩
  · rw [hw.written, List.getElem?_append_right (Nat.le_refl _), Nat.sub_self]
    rfl
  · rw [hp, hw.written]
  · rw [hw.received, hw.written, List.take_left]

/-- A broken run holds less than the document. -/
theorem BrokenAt.received_isPrefix {done : List Constraint} (h : w.BrokenAt b s done c)
    (rest : List Constraint) : w.channel.received <+: (b.document (done ++ c :: rest)).utf8 := by
  obtain ⟨part, missing, hp, hm, hw⟩ := h.holds
  -- with the missing bytes, the sink would hold the document up to `c`
  have hd : (b.document (done ++ [c])).utf8 = w.channel.received ++ missing := by
    rw [Backend.document_append, Text.utf8_append, ← hp, hw.received, List.append_assoc]
  have hlong : b.document (done ++ [c]) <+: b.document (done ++ c :: rest) := by
    simpa using b.document_isPrefix (done ++ [c]) rest
  obtain ⟨more, hmore⟩ := hlong
  exact ⟨missing ++ Text.utf8 more, by rw [← hmore, Text.utf8_append, hd, List.append_assoc]⟩

/-- Over a sink that stays closed once it refuses anything, what a run leaves is where the output of
the same calls to a willing sink starts: all of it if no call is at fault. Otherwise it is the
document of the constraints counted as written, and a part of the next piece that is not all of
it. -/
theorem run_new_of_staysClosed {settings : RenderSettings}
    (hb : b = functional settings ∨ b = triples settings) (hs : s.StaysClosed)
    (calls : List Call) :
    let cs := b.supported (calls.flatMap Call.submitted)
    let after := (new b s).run calls
    let whole := ((new b .willing).run calls).2.channel.received
    after.2.channel.received <+: whole ∧
      ((∀ reply ∈ after.1, reply.isFault = false) → after.2.channel.received = whole) ∧
      ((∃ reply ∈ after.1, reply.isFault = true) → ∃ c part missing,
        cs[after.2.written]? = some c ∧
          part ++ missing = (b.piece after.2.written c).utf8 ∧ missing ≠ [] ∧
          after.2.channel.received = (b.document (cs.take after.2.written)).utf8 ++ part) ∧
      ∀ call, (after.2.perform call).1.isFault = true →
        after.2.CountsAtFault (after.2.perform call).2.written call := by
  intro cs after whole
  have hl := isLawful_of_eq hb
  have stands : Stands b s cs after.2 (after.1.any Reply.isFault) :=
    (Stands.whole (holds_new b s)).run hl hs calls
  have hwhole : whole = (b.document cs).utf8 :=
    received_run_of_neverCloses hl Sink.neverCloses_willing calls
  refine ⟨?_, fun hf => ?_, fun ⟨reply, hm, hr⟩ => ?_, fun call hf => ?_⟩
  · rw [hwhole]
    generalize after.1.any Reply.isFault = failed at stands
    cases stands with
    | whole h =>
      have hr := h.received.trans (List.append_nil _)
      exact hr ▸ List.prefix_rfl
    | broken he h => rw [he]; exact h.received_isPrefix _
  · have hn : after.1.any Reply.isFault = false := by simpa using hf
    rw [hn] at stands
    cases stands with
    | whole h => rw [h.received, List.append_nil, hwhole]
  · have hn : after.1.any Reply.isFault = true := List.any_eq_true.mpr ⟨reply, hm, hr⟩
    rw [hn] at stands
    cases stands with
    | broken he h => rw [he]; exact h.received _
  · exact countsAtFault_perform (stands.backend ▸ hl) hf

/-- A sink that takes the first offer whole and refuses all others. -/
def closingBehindOne : Sink :=
  ⟨[], fun call => if call ≤ 1 then .takeAll else .fail (.brokenPipe "closed"), none⟩

theorem staysClosed_closingBehindOne : closingBehindOne.StaysClosed := by
  have takes (call : Nat) : (closingBehindOne.answer call).takes = decide (call ≤ 1) := by
    rw [closingBehindOne, apply_ite Answer.takes]
    by_cases h : call ≤ 1
    · rw [if_pos h, decide_eq_true h]
      rfl
    · rw [if_neg h, decide_eq_false h]
      rfl
  rintro first later ⟨-, hf⟩ hl hi
  rw [takes, decide_eq_false_iff_not] at hf
  have hlater : ¬ later ≤ 1 := by omega
  exact ⟨hi, by rw [takes, decide_eq_false hlater]⟩

/-- It takes the first block. -/
theorem write_closingBehindOne_of_fresh (hb : w.backend.IsLawful)
    (hc : w.backend.supports c.kind = true) (hs : w.channel.sink = closingBehindOne)
    (h : w.channel.calls = 0) :
    w.write c = (.ok (), w.counted (w.due c)) ∧
      (w.counted (w.due c)).channel = w.channel.take (w.due c).utf8 := by
  have ho : w.channel.writeAll (w.due c).utf8 = (.ok (), w.channel.take (w.due c).utf8) :=
    Channel.writeAll_of_takeAll (mt Text.utf8_eq_nil_iff.mp (due_ne_nil hb hc))
      (hs ▸ List.not_mem_nil) (by rw [hs, h]; rfl)
  refine ⟨?_, congrArg Prod.snd ho⟩
  rw [write_eq_send hb hc, send_of_ok (congrArg Prod.fst ho)]

/-- It takes no block behind the first. -/
theorem write_closingBehindOne_of_used (hb : w.backend.IsLawful)
    (hc : w.backend.supports c.kind = true) (hs : w.channel.sink = closingBehindOne)
    (h : w.channel.calls ≠ 0) :
    w.write c = (.error (.sink (.brokenPipe "closed")), w.cutOff (w.due c)) := by
  have ha : w.channel.sink.answer (w.channel.calls + 1) = .fail (.brokenPipe "closed") := by
    rw [hs, closingBehindOne]
    exact if_neg (by omega)
  have he := Channel.writeAll_of_fail (mt Text.utf8_eq_nil_iff.mp (due_ne_nil hb hc))
    (hs ▸ List.not_mem_nil) ha
  rw [write_eq_send hb hc, send_of_error (congrArg Prod.fst he)]

/-- The second constraint of a list is the first that it does not take. -/
theorem renderAll_closingBehindOne {c : Constraint}
    (hc : (functional .default).supports c.kind = true) :
    let after := (new (functional .default) closingBehindOne).renderAll neverRaised [c, c]
    after.1 = .error (.brokenPipe "closed") ∧ after.2.written = 1 := by
  intro after
  let w := new (functional .default) closingBehindOne
  let w' := w.counted (w.due c)
  have hl : w.backend.IsLawful := isLawful_functional .default
  obtain ⟨hw, hch⟩ := write_closingBehindOne_of_fresh hl hc rfl rfl
  have hw' : w'.write c = (.error (.sink (.brokenPipe "closed")), w'.cutOff (w'.due c)) :=
    write_closingBehindOne_of_used hl hc (hch ▸ rfl) (hch ▸ Nat.one_ne_zero)
  have hr : after = (.error (.brokenPipe "closed"), w'.cutOff (w'.due c)) := by
    change renderFrom neverRaised 0 .empty w [c, c] = _
    rw [renderFrom_cons_of_ok rfl (congrArg Prod.fst hw), hw,
      renderFrom_cons_of_fault rfl (congrArg Prod.fst hw'), hw']
  rw [hr]
  exact ⟨rfl, rfl⟩

/-- A list that is cut off behind its first constraint. -/
theorem run_new_of_staysClosed_closingBehindOne :
    let b := functional .default
    let c : Constraint := ⟨.instanceOf, .symmetric⟩
    let calls := [Call.renderAll [c, c]]
    let after := (new b closingBehindOne).run calls
    closingBehindOne.StaysClosed ∧
      after.2.channel.received <+: ((new b .willing).run calls).2.channel.received ∧
      ∃ part missing, part ++ missing = (b.piece 1 c).utf8 ∧ missing ≠ [] ∧
        after.2.channel.received = (b.document [c]).utf8 ++ part := by
  intro b c calls after
  obtain ⟨he, hn⟩ := renderAll_closingBehindOne (c := c) rfl
  have hw : after.2.written = 1 := hn
  have hf : ∃ reply ∈ after.1, reply.isFault = true :=
    ⟨_, List.mem_singleton_self _, by rw [perform, he]; rfl⟩
  obtain ⟨hp, -, hcut, -⟩ := run_new_of_staysClosed (.inl rfl) staysClosed_closingBehindOne calls
  obtain ⟨d, part, missing, hd, hpart, hm, hr⟩ := hcut hf
  rw [hw] at hd hpart hr
  cases hd
  exact ⟨staysClosed_closingBehindOne, hp, part, missing, hpart, hm, hr⟩

/-- A list that is cut off behind its first constraint has raised the count. -/
theorem written_lt_of_list_cut_off :
    let c : Constraint := ⟨.instanceOf, .symmetric⟩
    let w := new (functional .default) closingBehindOne
    let call := Call.renderAll [c, c]
    closingBehindOne.StaysClosed ∧ (w.perform call).1.isFault = true ∧
      w.written < (w.perform call).2.written := by
  intro c w call
  obtain ⟨he, hn⟩ := renderAll_closingBehindOne (c := c) rfl
  refine ⟨staysClosed_closingBehindOne, ?_, ?_⟩
  · rw [perform, he]
    rfl
  · rw [perform, hn]
    exact Nat.zero_lt_one

end Writer

end WikiAxioms.Output
