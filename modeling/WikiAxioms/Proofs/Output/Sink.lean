import WikiAxioms.Output.Sink

/-!
# What sinks take

However a sink cuts the bytes it is offered, and however often it is interrupted, what it has taken
of one text is a prefix of that text: all of it if the attempt succeeds, less than all if it fails.
Two promises of sinks are told apart. A sink that never closes takes something of every offer; a
sink that stays closed takes nothing any more once it has refused an offer.

The calls of a sink are numbered and its answers are arbitrary, so nothing is lost by not showing it
the bytes: what a sink does in one run, for whatever reason, is a list of answers.
-/

namespace WikiAxioms.Output

/-- Whether a call that is not interrupted takes a byte. -/
def Answer.takes : Answer → Bool
  | takeAll => true
  | takeAtMost limit => limit != 0
  | fail _ => false

namespace Sink

/-- A call takes nothing although nothing interrupts it. -/
def Refuses (s : Sink) (call : Nat) : Prop :=
  call ∉ s.interrupted ∧ (s.answer call).takes = false

/-- Every call takes something, interruptions aside. -/
def NeverCloses (s : Sink) : Prop := ∀ call, ¬ s.Refuses call

/-- After a call that takes nothing, no call takes anything; it may still be interrupted. -/
def StaysClosed (s : Sink) : Prop :=
  ∀ first later, s.Refuses first → first < later → later ∉ s.interrupted → s.Refuses later

theorem NeverCloses.staysClosed {s : Sink} (h : s.NeverCloses) : s.StaysClosed :=
  fun first _ hf => absurd hf (h first)

theorem neverCloses_willing : willing.NeverCloses := by
  rintro call ⟨-, h⟩
  simp [willing, Answer.takes] at h

end Sink

namespace Channel

/-- No further call takes anything. -/
def IsClosed (ch : Channel) : Prop :=
  ∀ call, ch.calls < call → call ∉ ch.sink.interrupted → ch.sink.Refuses call

@[simp] theorem received_tick (ch : Channel) : ch.tick.received = ch.received := rfl

@[simp] theorem sink_tick (ch : Channel) : ch.tick.sink = ch.sink := rfl

@[simp] theorem sink_take (ch : Channel) (bytes : List UInt8) : (ch.take bytes).sink = ch.sink :=
  rfl

theorem writeAll_of_takeAll {ch : Channel} {bytes : List UInt8} (hb : bytes ≠ [])
    (hi : ch.calls + 1 ∉ ch.sink.interrupted) (ha : ch.sink.answer (ch.calls + 1) = .takeAll) :
    ch.writeAll bytes = (.ok (), ch.take bytes) := by
  rw [writeAll, if_neg hb, if_neg hi, ha]

theorem writeAll_of_fail {ch : Channel} {bytes : List UInt8} {fault : SinkFault} (hb : bytes ≠ [])
    (hi : ch.calls + 1 ∉ ch.sink.interrupted)
    (ha : ch.sink.answer (ch.calls + 1) = .fail fault) :
    ch.writeAll bytes = (.error fault, ch.tick) := by
  rw [writeAll, if_neg hb, if_neg hi, ha]

theorem isClosed_of_refuses {ch ch' : Channel} (hs : ch.sink.StaysClosed)
    (h : ch.sink.Refuses (ch.calls + 1)) (hsink : ch'.sink = ch.sink)
    (hcalls : ch'.calls = ch.calls + 1) : ch'.IsClosed := by
  intro call hc hi
  rw [hcalls] at hc
  rw [hsink] at hi ⊢
  exact hs _ _ h hc hi

theorem sink_writeAll (ch : Channel) (bytes : List UInt8) :
    (ch.writeAll bytes).2.sink = ch.sink := by
  fun_induction writeAll ch bytes <;> simp_all

/-- Without a fault every byte is taken. -/
theorem received_writeAll_of_ok {ch : Channel} {bytes : List UInt8}
    (h : (ch.writeAll bytes).1 = .ok ()) :
    (ch.writeAll bytes).2.received = ch.received ++ bytes := by
  fun_induction writeAll ch bytes with
  | case1 ch => simp
  | case2 ch bytes _ _ ih => exact ih h
  | case3 => cases h
  | case4 ch bytes => exact received_take ch bytes
  | case5 => cases h
  | case6 ch bytes _ _ n _ ih =>
    rw [ih h, received_take, List.append_assoc, List.take_append_drop]

/-- With a fault some byte is missing. -/
theorem received_writeAll_of_error {ch : Channel} {bytes : List UInt8} {fault : SinkFault}
    (h : (ch.writeAll bytes).1 = .error fault) :
    ∃ part missing, part ++ missing = bytes ∧ missing ≠ [] ∧
      (ch.writeAll bytes).2.received = ch.received ++ part := by
  fun_induction writeAll ch bytes with
  | case1 => cases h
  | case2 ch bytes _ _ ih => exact ih h
  | case3 ch bytes hne => exact ⟨[], bytes, rfl, hne, by simp⟩
  | case4 => cases h
  | case5 ch bytes hne => exact ⟨[], bytes, rfl, hne, by simp [received_take]⟩
  | case6 ch bytes _ _ n _ ih =>
    obtain ⟨part, missing, hp, hm, hr⟩ := ih h
    refine ⟨bytes.take (n + 1) ++ part, missing, ?_, hm, ?_⟩
    · rw [List.append_assoc, hp, List.take_append_drop]
    · rw [hr, received_take, List.append_assoc]

/-- A fault closes a sink that stays closed. -/
theorem isClosed_writeAll_of_error {ch : Channel} {bytes : List UInt8} {fault : SinkFault}
    (hs : ch.sink.StaysClosed) (h : (ch.writeAll bytes).1 = .error fault) :
    (ch.writeAll bytes).2.IsClosed := by
  fun_induction writeAll ch bytes with
  | case1 => cases h
  | case2 ch bytes _ _ ih => exact ih hs h
  | case3 ch bytes _ hi _ ha =>
    exact isClosed_of_refuses hs ⟨hi, by rw [ha]; rfl⟩ rfl rfl
  | case4 => cases h
  | case5 ch bytes _ hi ha => exact isClosed_of_refuses hs ⟨hi, by rw [ha]; rfl⟩ rfl rfl
  | case6 ch bytes _ _ n _ ih => exact ih hs h

/-- A fault is due to a call that took nothing. -/
theorem exists_refuses_of_error {ch : Channel} {bytes : List UInt8} {fault : SinkFault}
    (h : (ch.writeAll bytes).1 = .error fault) : ∃ call, ch.sink.Refuses call := by
  fun_induction writeAll ch bytes with
  | case1 => cases h
  | case2 ch bytes _ _ ih => exact ih h
  | case3 ch bytes _ hi _ ha => exact ⟨_, hi, by rw [ha]; rfl⟩
  | case4 => cases h
  | case5 ch bytes _ hi ha => exact ⟨_, hi, by rw [ha]; rfl⟩
  | case6 ch bytes _ _ n _ ih => exact ih h

/-- Nothing is written to a closed sink. -/
theorem writeAll_of_isClosed {ch : Channel} {bytes : List UInt8} (hc : ch.IsClosed)
    (hb : bytes ≠ []) :
    (∃ fault, (ch.writeAll bytes).1 = .error fault) ∧
      (ch.writeAll bytes).2.received = ch.received ∧ (ch.writeAll bytes).2.IsClosed := by
  fun_induction writeAll ch bytes with
  | case1 => exact absurd rfl hb
  | case2 ch bytes _ _ ih =>
    exact ih (fun call h => hc call (Nat.lt_of_succ_lt h)) hb
  | case3 ch bytes _ hi fault =>
    exact ⟨⟨fault, rfl⟩, rfl, fun call h => hc call (Nat.lt_of_succ_lt h)⟩
  | case4 ch bytes _ hi ha =>
    have ht := (hc _ (Nat.lt_succ_self _) hi).2
    rw [ha] at ht
    cases ht
  | case5 ch bytes _ hi ha =>
    exact ⟨⟨_, rfl⟩, by simp [received_take], fun call h => hc call (Nat.lt_of_succ_lt h)⟩
  | case6 ch bytes _ hi n ha ih =>
    have ht := (hc _ (Nat.lt_succ_self _) hi).2
    rw [ha] at ht
    cases ht

end Channel

end WikiAxioms.Output
