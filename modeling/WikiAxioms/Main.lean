import WikiAxioms.Command.Outcome
import WikiAxioms.Pattern.Automaton

/-!
# The command

Reads what the options name, and delivers the outcome.
-/

namespace WikiAxioms.Command

/-- The system's words for a fault and its number; other faults have a number of no meaning. -/
def faultOf : IO.Error → FileFault
  | .noFileOrDirectory _ code details => .system details.toList code.toNat
  | .permissionDenied _ code details => .system details.toList code.toNat
  | .resourceExhausted _ code details => .system details.toList code.toNat
  | .inappropriateType _ code details => .system details.toList code.toNat
  | .invalidArgument _ code details => .system details.toList code.toNat
  | .otherError code details => .system details.toList code.toNat
  | fault => .system fault.toString.toList 0

/-- Does something with a file or a stream. -/
def attempt {α : Type} (action : IO α) : IO (Except FileFault α) := do
  try
    return .ok (← action)
  catch fault =>
    return .error (faultOf fault)

def readFile (path : Text) : IO (Except FileFault Text) := do
  let bytes ← attempt do (← IO.FS.Handle.mk (String.ofList path) .read).readBinToEnd
  return bytes.bind textOfBytes

def readInput (o : Options) : IO (Except FileFault Text) := do
  match o.input with
  | some path => readFile path
  | none =>
    let bytes ← attempt do (← IO.getStdin).readBinToEnd
    return bytes.bind textOfBytes

/-- Writes bytes and lets them pass on. Without bytes there is nothing to write. -/
def send (stream : IO.FS.Stream) (bytes : List UInt8) : IO Unit := do
  if !bytes.isEmpty then
    stream.write (ByteArray.mk bytes.toArray)
    stream.flush

def deliverTo (path : Text) (bytes : List UInt8) : IO (Except DeliveryFault Unit) := do
  match ← attempt (IO.FS.Handle.mk (String.ofList path) .write) with
  | .error fault => return .error (.creating path fault)
  | .ok handle =>
    return (← attempt (send (.ofHandle handle) bytes)).mapError .writing

/-- Writes the file that an outcome goes to, if it goes to one. -/
def deliver : Outcome → IO (Except DeliveryFault Unit)
  | .output (some path) _ bytes _ => deliverTo path bytes
  | .output none _ bytes _ => do
    return (← attempt (do send (← IO.getStdout) bytes)).mapError .writing
  | .listing t => do
    return (← attempt (do send (← IO.getStdout) (Text.utf8 t))).mapError .writing
  | .refused _ => return .ok ()

/-- The outcome of a run under given options. -/
def runOptions (o : Options) : IO Outcome := do
  match o.settings (← o.config.mapM readFile) with
  | .error words => return .refused words
  | .ok s =>
    let input ← if o.listKinds then pure (.ok []) else readInput o
    return o.outcome Pattern.check s input

end WikiAxioms.Command

def main (arguments : List String) : IO UInt32 := do
  let outcome ← match WikiAxioms.Command.Options.ofArguments (arguments.map String.toList) with
    | .error fault => pure (.refused fault.message)
    | .ok options => WikiAxioms.Command.runOptions options
  let appearance := outcome.appearance (← WikiAxioms.Command.deliver outcome)
  (← IO.getStderr).putStr (String.ofList appearance.err)
  return appearance.code.toUInt32
