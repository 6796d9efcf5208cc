import WikiAxioms.Text.Basic

/-!
# Sinks

A sink takes bytes in calls. A call may be interrupted, may take only some of the bytes offered, or
may fail; `Channel.writeAll` calls until every byte is taken or a call fails. Only finitely many
calls are interrupted, so it ends.
-/

namespace WikiAxioms.Output

/-- Why bytes could not be written. -/
inductive SinkFault where
  | brokenPipe (words : Text)
  /-- A call took nothing. -/
  | writeZero
  | other (words : Text)
  deriving DecidableEq

def SinkFault.words : SinkFault → Text
  | .brokenPipe words => words
  | .writeZero => "failed to write whole buffer"
  | .other words => words

def SinkFault.message (f : SinkFault) : Text := "failed to write output: " ++ f.words

/-- How a sink answers a call that is not interrupted. -/
inductive Answer where
  | takeAll
  | takeAtMost (limit : Nat)
  | fail (fault : SinkFault)
  deriving DecidableEq

/-- The behaviour of a sink; calls are numbered from one. -/
structure Sink where
  interrupted : List Nat
  answer : (call : Nat) → Answer
  flushFault : Option SinkFault

/-- A sink that takes everything. -/
def Sink.willing : Sink := ⟨[], fun _ => .takeAll, none⟩

/-- A sink in use. -/
structure Channel where
  sink : Sink
  calls : Nat
  /-- The bytes taken by each call that took some or none, the latest first. -/
  taken : List (List UInt8)

namespace Channel

def ofSink (sink : Sink) : Channel := ⟨sink, 0, []⟩

/-- All bytes taken so far. -/
def received (ch : Channel) : List UInt8 := ch.taken.reverse.flatten

/-- One more call that took nothing and was not answered. -/
def tick (ch : Channel) : Channel := { ch with calls := ch.calls + 1 }

/-- One more call, which took the given bytes. -/
def take (ch : Channel) (bytes : List UInt8) : Channel :=
  { ch with calls := ch.calls + 1, taken := bytes :: ch.taken }

/-- The interruptions still to come. -/
def pending (ch : Channel) : List Nat := ch.sink.interrupted.filter (ch.calls < ·)

theorem received_take (ch : Channel) (bytes : List UInt8) :
    (ch.take bytes).received = ch.received ++ bytes := by
  simp [received, take]

theorem length_filter_lt {l : List Nat} {n : Nat} (h : n + 1 ∈ l) :
    (l.filter (n + 1 < ·)).length < (l.filter (n < ·)).length := by
  have hs : (l.filter (n + 1 < ·)).Sublist (l.filter (n < ·)) := by
    have he : l.filter (n + 1 < ·) = (l.filter (n < ·)).filter (n + 1 < ·) := by
      rw [List.filter_filter]
      apply List.filter_congr
      intro a _
      by_cases ha : n + 1 < a
      · simp [ha, Nat.lt_trans (Nat.lt_succ_self n) ha]
      · simp [ha]
    rw [he]
    exact List.filter_sublist
  have hl := hs.length_le
  by_cases heq : (l.filter (n + 1 < ·)).length = (l.filter (n < ·)).length
  · have hm : n + 1 ∈ l.filter (n + 1 < ·) := by
      rw [hs.eq_of_length heq]
      simp [h]
    simp at hm
  · omega

theorem pending_tick {ch : Channel} (h : ch.calls + 1 ∈ ch.sink.interrupted) :
    ch.tick.pending.length < ch.pending.length :=
  length_filter_lt h

/-- Calls the sink until it has taken all bytes. An interrupted call is repeated; a failing call,
or one that takes nothing, ends the attempt. -/
def writeAll (ch : Channel) (bytes : List UInt8) : Except SinkFault Unit × Channel :=
  if bytes = [] then (.ok (), ch)
  else if ch.calls + 1 ∈ ch.sink.interrupted then writeAll ch.tick bytes
  else
    match ch.sink.answer (ch.calls + 1) with
    | .fail fault => (.error fault, ch.tick)
    | .takeAll => (.ok (), ch.take bytes)
    | .takeAtMost 0 => (.error .writeZero, ch.take [])
    | .takeAtMost (n + 1) => writeAll (ch.take (bytes.take (n + 1))) (bytes.drop (n + 1))
termination_by (bytes.length, ch.pending.length)
decreasing_by
  · exact Prod.Lex.right _ (pending_tick ‹_›)
  · refine Prod.Lex.left _ _ ?_
    have := List.length_pos_iff.mpr ‹¬bytes = []›
    simp only [List.length_drop]
    omega

/-- Asks the sink to pass on what it holds. -/
def flush (ch : Channel) : Except SinkFault Unit :=
  match ch.sink.flushFault with
  | none => .ok ()
  | some fault => .error fault

end Channel

end WikiAxioms.Output
