import WikiAxioms.Output.Backend
import WikiAxioms.Output.Sink
import WikiAxioms.Warning

/-!
# Writers

A writer sends the blocks of constraints to a sink, each block in one piece, the prelude of the
backend in front of the first. It counts what it has written: the count gives each block its
ordinal. Constraints that the backend has no form for leave everything as it was, except that the
first of each kind is warned about.
-/

namespace WikiAxioms.Output

/-- Why a constraint was not written. -/
inductive RenderFault where
  | unsupported (refusal : Unsupported)
  | sink (fault : SinkFault)
  deriving DecidableEq

def RenderFault.message : RenderFault → Text
  | .unsupported refusal => refusal.message
  | .sink fault => fault.message

structure Writer where
  backend : Backend
  channel : Channel
  preludeDone : Bool
  /-- How many constraints have been written. -/
  written : Nat
  /-- Kinds that have been warned about, the latest first. -/
  warned : List Kind
  /-- The warnings given, in order. -/
  warnings : List Warning

namespace Writer

def new (backend : Backend) (sink : Sink) : Writer :=
  ⟨backend, .ofSink sink, false, 0, [], []⟩

/-- The prelude that is still to be written. -/
def duePrelude (w : Writer) : Text := if w.preludeDone then [] else w.backend.prelude.getD []

/-- The writer after a constraint of a kind was refused. -/
def warn (w : Writer) (kind : Kind) : Writer :=
  if kind ∈ w.warned then w
  else
    { w with
      warned := kind :: w.warned
      warnings := w.warnings ++ [.unsupportedKind kind w.backend.name] }

/-- Sends a text to the sink in one piece and counts one constraint if that succeeds. -/
def send (w : Writer) (text : Text) : Except RenderFault Unit × Writer :=
  match w.channel.writeAll text.utf8 with
  | (.ok (), ch) =>
    (.ok (), { w with channel := ch, preludeDone := true, written := w.written + 1 })
  | (.error fault, ch) => (.error (.sink fault), { w with channel := ch })

/-- Writes a constraint. -/
def write (w : Writer) (c : Constraint) : Except RenderFault Unit × Writer :=
  match w.backend.append (w.written + 1) c w.duePrelude with
  | (.ok (), text) => w.send text
  | (.error refusal, _) => (.error (.unsupported refusal), w.warn refusal.kind)

/-- Writes a constraint if there is one. -/
def render (w : Writer) : Option Constraint → Except RenderFault Unit × Writer
  | none => (.ok (), w)
  | some c => w.write c

/-- Lets the sink pass on what it holds. -/
def finish (w : Writer) : Except SinkFault Unit := w.channel.flush

end Writer

/-- What became of a list of constraints. -/
structure Summary where
  rendered : Nat
  /-- How many constraints of each unsupported kind there were, in the order of kinds. -/
  unsupported : List (Kind × Nat)
  cancelled : Bool
  deriving DecidableEq

namespace Summary

def empty : Summary := ⟨0, [], false⟩

/-- Counts one more of a kind in a list ordered by kind. -/
def countKind (kind : Kind) : List (Kind × Nat) → List (Kind × Nat)
  | [] => [(kind, 1)]
  | (k, n) :: counts =>
    if k = kind then (k, n + 1) :: counts
    else if kind.rank < k.rank then (kind, 1) :: (k, n) :: counts
    else (k, n) :: countKind kind counts

/-- How many constraints had an unsupported kind. -/
def skipped (s : Summary) : Nat := total (s.unsupported.map Prod.snd)

end Summary

namespace Writer

/-- Continues `renderAll` at the `turn`-th constraint. -/
def renderFrom (raised : Nat → Writer → Bool) (turn : Nat) (summary : Summary) (w : Writer) :
    List Constraint → Except SinkFault Summary × Writer
  | [] => (.ok summary, w)
  | c :: cs =>
    if raised turn w then (.ok { summary with cancelled := true }, w)
    else
      match w.write c with
      | (.ok (), w) =>
        renderFrom raised (turn + 1) { summary with rendered := summary.rendered + 1 } w cs
      | (.error (.unsupported refusal), w) =>
        renderFrom raised (turn + 1)
          { summary with unsupported := Summary.countKind refusal.kind summary.unsupported } w cs
      | (.error (.sink fault), w) => (.error fault, w)

/-- Writes constraints in order. Before each, `raised` tells whether to stop: it sees the number of
the turn and the writer, for the flag it reads may change at any time. -/
def renderAll (raised : Nat → Writer → Bool) (w : Writer) (cs : List Constraint) :
    Except SinkFault Summary × Writer :=
  renderFrom raised 0 .empty w cs

end Writer

end WikiAxioms.Output
