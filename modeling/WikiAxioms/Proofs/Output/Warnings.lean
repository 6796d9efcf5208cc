import WikiAxioms.Proofs.Output.Cancellation
import WikiAxioms.Proofs.Output.Fault

/-!
# Warnings about refused kinds

A writer warns about a kind when the first constraint of that kind is refused, and never again. The
set of kinds it has warned about changes in refusals only, so neither a sink that is at fault nor a
list that is cancelled makes it forget a kind or repeat a warning: the warnings depend on nothing
but the constraints that were submitted, in their order. Nothing is asked of the sink here.
-/

namespace WikiAxioms.Output

namespace Backend

/-- A backend has a form for the kinds it says it supports, and refuses the others in its own
name. -/
structure TellsSupport (b : Backend) : Prop where
  appends (ordinal : Nat) {c : Constraint} (buffer : Text) :
    b.supports c.kind = true → (b.append ordinal c buffer).1 = .ok ()
  refuses (ordinal : Nat) {c : Constraint} (buffer : Text) :
    b.supports c.kind = false → (b.append ordinal c buffer).1 = .error ⟨c.kind, b.name⟩

theorem IsLawful.tellsSupport {b : Backend} (hb : b.IsLawful) : b.TellsSupport where
  appends ordinal _ buffer hc := by rw [hb.append_of_supports hc]
  refuses ordinal _ buffer hc := by rw [hb.refuses ordinal hc]

/-- What is to be said about refused kinds: one warning for each, where it comes up first. -/
def warningsFor (b : Backend) (kinds : List Kind) : List Warning :=
  kinds.eraseDups.map fun kind => .unsupportedKind kind b.name

theorem warningsFor_append_singleton (b : Backend) (kinds : List Kind) (kind : Kind) :
    b.warningsFor (kinds ++ [kind]) =
      b.warningsFor kinds ++ if kind ∈ kinds then [] else [.unsupportedKind kind b.name] := by
  rw [warningsFor, List.eraseDups_append, List.map_append, warningsFor]
  by_cases h : kind ∈ kinds <;> simp [List.removeAll, List.eraseDups_cons, h]

theorem mem_refused {b : Backend} {cs : List Constraint} {kind : Kind} :
    kind ∈ b.refused cs ↔ b.supports kind = false ∧ kind ∈ cs.map Constraint.kind := by
  rw [refused, List.mem_filter, Bool.not_eq_true', and_comm]

/-- Another constraint calls for a warning if its kind is refused and has not come up before. -/
theorem warningsFor_refused_append (b : Backend) (cs : List Constraint) (c : Constraint) :
    b.warningsFor (b.refused (cs ++ [c])) = b.warningsFor (b.refused cs) ++
      if b.supports c.kind = false ∧ c.kind ∉ cs.map Constraint.kind then
        [.unsupportedKind c.kind b.name] else [] := by
  rw [refused_append, refused_singleton]
  cases hc : b.supports c.kind with
  | true => simp
  | false =>
    rw [if_neg Bool.false_ne_true, warningsFor_append_singleton]
    by_cases hm : c.kind ∈ cs.map Constraint.kind
    · rw [if_pos (mem_refused.mpr ⟨hc, hm⟩), if_neg fun h => h.2 hm]
    · rw [if_neg fun h => hm (mem_refused.mp h).2, if_pos ⟨rfl, hm⟩]

end Backend

namespace Writer

/-- The constraints of a list that are submitted, from its `turn`-th on: those in front of the turn
at which the flag is found raised, and of these none behind one that the sink does not take. -/
def submittedFrom (raised : Nat → Writer → Bool) (turn : Nat) (w : Writer) :
    List Constraint → List Constraint
  | [] => []
  | c :: cs =>
    if raised turn w then []
    else
      match w.write c with
      | (.error (.sink _), _) => [c]
      | (_, w) => c :: submittedFrom raised (turn + 1) w cs

/-- The constraints of a list that are submitted. -/
def submitted (raised : Nat → Writer → Bool) (w : Writer) (cs : List Constraint) :
    List Constraint :=
  submittedFrom raised 0 w cs

/-- A writer that has been called any number of times, whatever became of each call, and the
constraints that were submitted to it, in order. -/
inductive HasServed (b : Backend) (s : Sink) : List Constraint → Writer → Prop
  | new : HasServed b s [] (new b s)
  | render {cs : List Constraint} {w : Writer} (c? : Option Constraint) :
    HasServed b s cs w → HasServed b s (cs ++ c?.toList) (w.render c?).2
  | renderAll {cs : List Constraint} {w : Writer} (raised : Nat → Writer → Bool)
    (ds : List Constraint) :
    HasServed b s cs w → HasServed b s (cs ++ w.submitted raised ds) (w.renderAll raised ds).2

/-- A writer has warned about the kinds that were refused, each once. -/
structure HasWarned (b : Backend) (cs : List Constraint) (w : Writer) : Prop where
  backend : w.backend = b
  mem_warned (kind : Kind) : kind ∈ w.warned ↔ kind ∈ b.refused cs
  warnings : w.warnings = b.warningsFor (b.refused cs)

variable {b : Backend} {s : Sink} {cs : List Constraint} {c : Constraint} {w : Writer}

/-! ### One constraint -/

theorem write_of_not_supports (hb : w.backend.TellsSupport)
    (hc : w.backend.supports c.kind = false) :
    w.write c = (.error (.unsupported ⟨c.kind, w.backend.name⟩), w.warn c.kind) := by
  have hr := hb.refuses (w.written + 1) w.duePrelude hc
  rw [write]
  split
  · next heq => simp [heq] at hr
  · next heq =>
    rw [heq] at hr
    obtain rfl := Except.error.inj hr
    rfl

theorem exists_write_eq_send (hb : w.backend.TellsSupport)
    (hc : w.backend.supports c.kind = true) : ∃ text, w.write c = w.send text := by
  have ha := hb.appends (w.written + 1) w.duePrelude hc
  rw [write]
  split
  · next text _ => exact ⟨text, rfl⟩
  · next heq => simp [heq] at ha

theorem send_cases (w : Writer) (text : Text) :
    w.send text = (.ok (), w.counted text) ∨
      ∃ fault, w.send text = (.error (.sink fault), w.cutOff text) := by
  cases h : (w.channel.writeAll text.utf8).1 with
  | ok _ => exact .inl (send_of_ok h)
  | error fault => exact .inr ⟨fault, send_of_error h⟩

theorem mem_warned_warn (w : Writer) (kind k : Kind) :
    k ∈ (w.warn kind).warned ↔ k ∈ w.warned ∨ k = kind := by
  rw [warn]
  split
  · exact ⟨.inl, fun h => h.elim id fun he => he ▸ ‹kind ∈ w.warned›⟩
  · rw [List.mem_cons, or_comm]

theorem warnings_warn (w : Writer) (kind : Kind) :
    (w.warn kind).warnings = w.warnings ++
      if kind ∈ w.warned then [] else [.unsupportedKind kind w.backend.name] := by
  rw [warn]
  split <;> simp

/-- A constraint that is sent leaves the warnings alone, whether or not the sink takes it. -/
theorem HasWarned.send (h : HasWarned b cs w) (text : Text) :
    HasWarned b cs (w.send text).2 := by
  rcases send_cases w text with hw | ⟨fault, hw⟩
  · rw [hw]
    exact ⟨h.backend, h.mem_warned, h.warnings⟩
  · rw [hw]
    exact ⟨h.backend, h.mem_warned, h.warnings⟩

/-- A refusal adds the kind to those that were refused. -/
theorem HasWarned.warn (h : HasWarned b cs w) (hc : b.supports c.kind = false) :
    HasWarned b (cs ++ [c]) (w.warn c.kind) := by
  have hr : b.refused (cs ++ [c]) = b.refused cs ++ [c.kind] := by
    rw [Backend.refused_append, Backend.refused_singleton, hc, if_neg Bool.false_ne_true]
  refine ⟨by rw [backend_warn, h.backend], fun k => ?_, ?_⟩
  · rw [mem_warned_warn, h.mem_warned, hr, List.mem_append, List.mem_singleton]
  · rw [warnings_warn, h.warnings, hr, Backend.warningsFor_append_singleton, h.backend]
    simp only [h.mem_warned]

/-- Submitting one constraint keeps the invariant. -/
theorem HasWarned.write (hb : b.TellsSupport) (h : HasWarned b cs w) (c : Constraint) :
    HasWarned b (cs ++ [c]) (w.write c).2 := by
  obtain rfl := h.backend
  cases hc : w.backend.supports c.kind with
  | false =>
    rw [write_of_not_supports hb hc]
    exact h.warn hc
  | true =>
    have hr : w.backend.refused (cs ++ [c]) = w.backend.refused cs := by
      rw [Backend.refused_append, Backend.refused_singleton, hc, if_pos rfl, List.append_nil]
    obtain ⟨text, ht⟩ := exists_write_eq_send hb hc
    obtain ⟨hk, hm, hw⟩ := h.send text
    rw [ht]
    exact ⟨hk, by rwa [hr], by rwa [hr]⟩

/-- A refusal is no fault of the sink. -/
theorem HasWarned.isFault_write (hb : b.TellsSupport) (h : HasWarned b cs w)
    (hc : b.supports c.kind = false) : (Reply.rendered (w.write c).1).isFault = false := by
  obtain rfl := h.backend
  rw [write_of_not_supports hb hc]
  rfl

/-! ### Many constraints -/

theorem submit_append (w : Writer) (cs ds : List Constraint) :
    w.submit (cs ++ ds) = (w.submit cs).submit ds := by
  induction cs generalizing w with
  | nil => rfl
  | cons c cs ih => exact ih (w.write c).2

theorem hasWarned_new (b : Backend) (s : Sink) : HasWarned b [] (new b s) where
  backend := rfl
  mem_warned _ := Iff.rfl
  warnings := rfl

/-- Submitting constraints keeps the invariant. -/
theorem HasWarned.submit (hb : b.TellsSupport) (h : HasWarned b cs w) (ds : List Constraint) :
    HasWarned b (cs ++ ds) (w.submit ds) := by
  induction ds generalizing cs w with
  | nil => simpa [Writer.submit] using h
  | cons d ds ih =>
    rw [List.append_cons]
    exact ih (h.write hb d)

section Turns

variable {raised : Nat → Writer → Bool} {turn : Nat}

theorem submittedFrom_cons_of_raised (hr : raised turn w = true) (c : Constraint)
    (cs : List Constraint) : submittedFrom raised turn w (c :: cs) = [] := by
  rw [submittedFrom, if_pos hr]

theorem submittedFrom_cons_of_fault (hr : raised turn w = false) {fault : SinkFault}
    (hw : (w.write c).1 = .error (.sink fault)) (cs : List Constraint) :
    submittedFrom raised turn w (c :: cs) = [c] := by
  have hp : w.write c = (_, (w.write c).2) := Prod.ext hw rfl
  rw [submittedFrom, if_neg (by simp [hr]), hp]

theorem submittedFrom_cons_of_ne_fault (hr : raised turn w = false)
    (hw : (Reply.rendered (w.write c).1).isFault = false) (cs : List Constraint) :
    submittedFrom raised turn w (c :: cs) =
      c :: submittedFrom raised (turn + 1) (w.write c).2 cs := by
  rw [submittedFrom, if_neg (by simp [hr])]
  split
  · rename_i heq
    rw [heq] at hw
    cases hw
  · rename_i heq
    rw [heq]

/-- At each turn the sink is at fault, or the summary goes on to account for one more constraint. -/
theorem turn_cases (hb : w.backend.TellsSupport) (hr : raised turn w = false) {summary : Summary}
    {front : List Constraint} (ha : summary.Accounts w.backend front) (c : Constraint)
    (cs : List Constraint) :
    (∃ fault, w.backend.supports c.kind = true ∧ (w.write c).1 = .error (.sink fault)) ∨
      ((Reply.rendered (w.write c).1).isFault = false ∧ ∃ summary₁,
        renderFrom raised turn summary w (c :: cs) =
          renderFrom raised (turn + 1) summary₁ (w.write c).2 cs ∧
        summary₁.Accounts w.backend (front ++ [c])) := by
  cases hc : w.backend.supports c.kind with
  | false =>
    have hw := congrArg Prod.fst (write_of_not_supports hb hc)
    exact .inr ⟨by rw [hw]; rfl, _, renderFrom_cons_of_unsupported hr hw summary cs,
      ha.of_not_supports hc⟩
  | true =>
    obtain ⟨text, ht⟩ := exists_write_eq_send hb hc
    rcases send_cases w text with hs | ⟨fault, hs⟩
    · have hw : (w.write c).1 = .ok () := by rw [ht, hs]
      exact .inr ⟨by rw [hw]; rfl, _, renderFrom_cons_of_ok hr hw summary cs, ha.of_supports hc⟩
    · exact .inl ⟨fault, rfl, by rw [ht, hs]⟩

end Turns

/-- What a list returns when these of its constraints were submitted: a summary that accounts for
them, or a fault of the sink at the last of them, which is a constraint that the backend
supports. -/
def IsSettledBy (b : Backend) (submitted : List Constraint) : Except SinkFault Summary → Prop
  | .ok summary => summary.Accounts b submitted
  | .error _ => ∃ front c, submitted = front ++ [c] ∧ b.supports c.kind = true

/-- A list leaves the writer as its submitted constraints leave it one by one. -/
theorem HasWarned.renderFrom (hb : b.TellsSupport) (h : HasWarned b cs w)
    (raised : Nat → Writer → Bool) (turn : Nat) {summary : Summary} {front : List Constraint}
    (ha : summary.Accounts b front) (ds : List Constraint) :
    (Writer.renderFrom raised turn summary w ds).2 = w.submit (submittedFrom raised turn w ds) ∧
      IsSettledBy b (front ++ submittedFrom raised turn w ds)
        (Writer.renderFrom raised turn summary w ds).1 := by
  induction ds generalizing cs w turn summary front with
  | nil => exact ⟨rfl, by simpa [Writer.renderFrom, submittedFrom, IsSettledBy] using ha⟩
  | cons d ds ih =>
    obtain rfl := h.backend
    cases hr : raised turn w with
    | true =>
      rw [submittedFrom_cons_of_raised hr, List.append_nil, Writer.renderFrom, if_pos hr]
      exact ⟨rfl, ha.rendered, ha.unsupported⟩
    | false =>
      rcases turn_cases hb hr ha d ds with ⟨fault, hc, hw⟩ | ⟨hf, summary₁, he, ha₁⟩
      · rw [submittedFrom_cons_of_fault hr hw, renderFrom_cons_of_fault hr hw]
        exact ⟨rfl, front, d, rfl, hc⟩
      · rw [he, submittedFrom_cons_of_ne_fault hr hf, List.append_cons]
        exact ih (h.write hb d) (turn + 1) ha₁

/-- However constraints are spread over calls, they leave the writer as they do one by one. -/
theorem HasServed.eq_submit (hb : b.TellsSupport) (h : HasServed b s cs w) :
    w = (Writer.new b s).submit cs := by
  induction h with
  | new => rfl
  | @render cs w c? _ ih =>
    rw [submit_append, ← ih]
    cases c? <;> rfl
  | @renderAll cs w raised ds _ ih =>
    have hw : HasWarned b cs w := by
      rw [ih]
      exact (hasWarned_new b s).submit hb cs
    rw [submit_append, ← ih]
    exact (hw.renderFrom hb raised 0 (.empty b) ds).1

/-- The invariant holds at all times. -/
theorem HasServed.hasWarned (hb : b.TellsSupport) (h : HasServed b s cs w) : HasWarned b cs w := by
  rw [h.eq_submit hb]
  exact (hasWarned_new b s).submit hb cs

/-- A writer gives one warning for each kind that was refused, in the order in which they came up,
at the first constraint of the kind. Every constraint of such a kind is refused, by itself or as one
that a list leaves out and counts, and nothing is sent, counted as written or marked as sent for
it. -/
theorem warnings_of_hasServed (hb : b.TellsSupport) (h : HasServed b s cs w) :
    w.warnings = b.warningsFor (b.refused cs) ∧
      (∀ done c rest, cs = done ++ c :: rest →
        let before := (new b s).submit done
        let after := (before.write c).2
        w = after.submit rest ∧
          after.warnings = before.warnings ++
            (if b.supports c.kind = false ∧ c.kind ∉ done.map Constraint.kind then
              [.unsupportedKind c.kind b.name] else []) ∧
          (b.supports c.kind = false →
            before.render (some c) = (.error (.unsupported ⟨c.kind, b.name⟩), after) ∧
              after.channel = before.channel ∧ after.written = before.written ∧
              after.preludeDone = before.preludeDone)) ∧
      ∀ raised ds, (w.renderAll raised ds).2 = w.submit (w.submitted raised ds) ∧
        IsSettledBy b (w.submitted raised ds) (w.renderAll raised ds).1 := by
  obtain rfl := h.eq_submit hb
  have warned (ds : List Constraint) : HasWarned b ds ((new b s).submit ds) :=
    (hasWarned_new b s).submit hb ds
  refine ⟨(warned cs).warnings, ?_, fun raised ds => ?_⟩
  · rintro done c rest rfl before after
    have hbefore : HasWarned b done before := warned done
    have hafter : HasWarned b (done ++ [c]) after := hbefore.write hb c
    refine ⟨submit_append _ done (c :: rest), ?_, fun hc => ?_⟩
    · rw [hafter.warnings, hbefore.warnings, Backend.warningsFor_refused_append]
    · have hw : before.write c = (.error (.unsupported ⟨c.kind, b.name⟩), before.warn c.kind) := by
        have hk := hbefore.backend
        rw [write_of_not_supports (hk ▸ hb) (hk ▸ hc), hk]
      have ha : after = before.warn c.kind := congrArg Prod.snd hw
      refine ⟨?_, ?_, ?_, ?_⟩
      · rw [render, hw, ha]
      · rw [ha, channel_warn]
      · rw [ha, written_warn]
      · rw [ha, preludeDone_warn]
  · exact (warned cs).renderFrom hb raised 0 (.empty b) ds

/-- Two kinds are warned about once each, although both come up in several calls: one by itself,
then both in a list that the sink cuts off at its second block, and in a list that is cancelled
before its third turn. -/
theorem warnings_of_hasServed_interrupted :
    let b := functional .default
    let p := PropertyId.instanceOf
    let w₁ := ((new b closingBehindOne).render (some ⟨p, .existingFile⟩)).2
    let ds : List Constraint :=
      [⟨p, .existingFile⟩, ⟨p, .symmetric⟩, ⟨p, .multiValue⟩, ⟨p, .singleValue⟩,
        ⟨p, .qualifiers []⟩]
    let w₂ := (w₁.renderAll neverRaised ds).2
    let es : List Constraint := [⟨p, .multiValue⟩, ⟨p, .existingFile⟩, ⟨p, .qualifiers []⟩]
    let raised : Nat → Writer → Bool := fun turn _ => turn == 2
    let w₃ := (w₂.renderAll raised es).2
    b.TellsSupport ∧
      HasServed b closingBehindOne (⟨p, .existingFile⟩ :: ds.take 4 ++ es.take 2) w₃ ∧
      w₃.warnings =
        [.unsupportedKind .existingFile b.name, .unsupportedKind .multiValue b.name] := by
  intro b p w₁ ds w₂ es raised w₃
  have hb : b.TellsSupport := (isLawful_functional .default).tellsSupport
  have hds : w₁.submitted neverRaised ds = ds.take 4 := by
    -- the writers before the block that the sink takes and before the one that it does not take
    let w := (w₁.write ⟨p, .existingFile⟩).2
    let w' := ((w.counted (w.due ⟨p, .symmetric⟩)).write ⟨p, .multiValue⟩).2
    have hl : w.backend.IsLawful := isLawful_functional .default
    obtain ⟨hw, hch⟩ := write_closingBehindOne_of_fresh (c := ⟨p, .symmetric⟩) hl rfl rfl rfl
    have hch' : w'.channel = w.channel.take (w.due ⟨p, .symmetric⟩).utf8 := hch
    have hf : (Reply.rendered (w.write ⟨p, .symmetric⟩).1).isFault = false := by rw [hw]; rfl
    have hw' := write_closingBehindOne_of_used (w := w') (c := ⟨p, .singleValue⟩) hl rfl
      (hch' ▸ rfl) (hch' ▸ Nat.one_ne_zero)
    refine (submittedFrom_cons_of_ne_fault rfl rfl _).trans (congrArg _ ?_)
    refine (submittedFrom_cons_of_ne_fault rfl hf _).trans (congrArg _ ?_)
    rw [hw]
    refine (submittedFrom_cons_of_ne_fault rfl rfl _).trans (congrArg _ ?_)
    exact submittedFrom_cons_of_fault rfl (congrArg Prod.fst hw') _
  have served₂ : HasServed b closingBehindOne (⟨p, .existingFile⟩ :: ds.take 4) w₂ := by
    rw [← hds]
    exact (HasServed.new.render (some _)).renderAll _ _
  have warned₂ := served₂.hasWarned hb
  have hes : w₂.submitted raised es = es.take 2 := by
    refine (submittedFrom_cons_of_ne_fault rfl (warned₂.isFault_write hb rfl) _).trans
      (congrArg _ ?_)
    refine (submittedFrom_cons_of_ne_fault rfl ((warned₂.write hb _).isFault_write hb rfl) _).trans
      (congrArg _ ?_)
    exact submittedFrom_cons_of_raised rfl _ _
  have served₃ :
      HasServed b closingBehindOne (⟨p, .existingFile⟩ :: ds.take 4 ++ es.take 2) w₃ := by
    rw [← hes]
    exact served₂.renderAll _ _
  refine ⟨hb, served₃, ?_⟩
  rw [(warnings_of_hasServed hb served₃).1]
  decide +kernel

end Writer

end WikiAxioms.Output
