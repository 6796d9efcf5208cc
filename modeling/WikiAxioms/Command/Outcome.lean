import WikiAxioms.Command.Source
import WikiAxioms.Compile
import WikiAxioms.Markup.Report
import WikiAxioms.Output.Functional
import WikiAxioms.Output.Triples
import WikiAxioms.Output.Writer
import WikiAxioms.Settings

/-!
# Outcomes of the command

What a run of the command makes of its options and of the texts that they name. Everything is
worked out before anything is written, so that what remains to be done outside is to deliver an
`Outcome` and to say whether that went well.
-/

namespace WikiAxioms.Command

open WikiAxioms.Catalog WikiAxioms.Output

/-- Why a file or a stream could not be read or written. -/
inductive FileFault where
  /-- Its bytes are no text. -/
  | notText
  /-- The system refused, in words and with the number that it has for them. -/
  | system (words : Text) (number : Nat)
  deriving DecidableEq

def FileFault.message : FileFault → Text
  | notText => "stream did not contain valid UTF-8"
  | system words number => words ++ " (os error " ++ Text.ofNat number ++ ")"

/-- The text that bytes are the UTF-8 form of. -/
def textOfBytes (bytes : ByteArray) : Except FileFault Text :=
  match String.fromUTF8? bytes with
  | some s => .ok s.toList
  | none => .error .notText

/-- Where the output goes. -/
abbrev Target := Option Text

/-- What a batch of entries comes to. -/
structure Batch where
  /-- Drawn reports of syntax faults, in the order of the entries. -/
  reports : List Text
  constraints : List Constraint
  /-- How many entries failed to compile. -/
  failures : Nat

inductive Outcome where
  /-- Nothing is written, for a reason in words. -/
  | refused (words : Text)
  | listing (t : Text)
  /-- The output of a batch, which is complete if nothing failed. -/
  | output (target : Target) (reports : Text) (bytes : List UInt8) (complete : Bool)

/-- What went wrong when the output was delivered. -/
inductive DeliveryFault where
  | creating (path : Text) (fault : FileFault)
  | writing (fault : FileFault)

/-- What is seen of a run from outside. -/
structure Appearance where
  code : Nat
  out : List UInt8
  err : Text

/-- The settings: those of a file, if one is named, under what the options set themselves. -/
def Options.settings (o : Options) (config : Option (Except FileFault Text)) :
    Except Text Settings := do
  let refuse (words : Text) : Text :=
    "Error loading config '" ++ o.config.getD [] ++ "': " ++ words ++ "\n"
  let s ← match config with
    | none => .ok .default
    | some (.error fault) => .error (refuse ("Failed to read config file: " ++ fault.message))
    | some (.ok t) => (Settings.ofText t).mapError fun fault => refuse fault.message
  return { policy := o.policy.getD s.policy,
           render := { s.render with prelude := o.prelude || s.render.prelude } }

def Options.backend (o : Options) (s : Settings) : Backend :=
  match o.format with
  | .owl => functional s.render
  | .ntriples => triples s.render

/-- Compiles one entry after those behind `b`. -/
def Batch.add (r : Registry) (b : Batch) (e : SourceEntry) : Batch :=
  match (compile r e.property e.declaration).1 with
  | .ok c => { b with constraints := b.constraints ++ [c] }
  | .error (.syntactic fault) =>
    { b with reports := b.reports ++ [fault.report e.declaration e.origin],
             failures := b.failures + 1 }
  | .error (.building _) => { b with failures := b.failures + 1 }

/-- Compiles entries; each fails or succeeds for itself. -/
def Batch.ofEntries (r : Registry) (entries : List SourceEntry) : Batch :=
  entries.foldl (Batch.add r) ⟨[], [], 0⟩

/-- The bytes that a fresh writer sends to a sink that takes everything. -/
def render (b : Backend) (constraints : List Constraint) : List UInt8 :=
  ((Writer.new b .willing).renderAll (fun _ _ => false) constraints).2.channel.received

/-- One line for each kind: its name, which backends have a form for it, and a sample. -/
def listing (r : Registry) (s : Settings) : Text :=
  let mark (supported : Bool) : Text := Text.padRight 3 (if supported then "yes" else "no")
  Kind.all.flatMap fun kind =>
    Text.padRight 22 kind.templateName ++ " owl=" ++ mark ((functional s.render).supports kind) ++
      " ntriples=" ++ mark ((triples s.render).supports kind) ++ " " ++
      ((r.acceptedShape kind.templateName).map Markup.Template.render).getD [] ++ "\n"

/-- The entries of an input, and how many of its lines are malformed. -/
def Options.entries (o : Options) (t : Text) : Except Text (List SourceEntry × Nat) :=
  match o.inputFormat, o.property with
  | .tsv, _ => .ok (tableEntries t, malformedLines t)
  | .page, some property => .ok (pageEntries property t, 0)
  | .page, none => .error "Error: --input-format page requires --property\n"

/-- The words for an input that cannot be read. -/
def Options.unreadable (o : Options) (fault : FileFault) : Text :=
  match o.input with
  | some path => "Error reading file '" ++ path ++ "': " ++ fault.message ++ "\n"
  | none => "Error reading from stdin: " ++ fault.message ++ "\n"

/-- What a run makes of its input, under its settings. -/
def Options.outcome (o : Options) (check : PatternCheck) (s : Settings)
    (input : Except FileFault Text) : Outcome :=
  let registry := Registry.standard check s.policy
  if o.listKinds then .listing (listing registry s)
  else match input with
    | .error fault => .refused (o.unreadable fault)
    | .ok t =>
      match o.entries t with
      | .error words => .refused words
      | .ok (entries, malformed) =>
        let batch := Batch.ofEntries registry entries
        .output o.output batch.reports.flatten (render (o.backend s) batch.constraints)
          (malformed + batch.failures == 0)

/-- The words for output that could not be delivered. -/
def DeliveryFault.message : DeliveryFault → Text
  | creating path fault => "Error creating '" ++ path ++ "': " ++ fault.message ++ "\n"
  | writing fault => "Error: " ++ (SinkFault.other fault.message).message ++ "\n"

/-- What is seen of a run, given how the delivery of its output went. -/
def Outcome.appearance (delivery : Except DeliveryFault Unit) : Outcome → Appearance
  | refused words => ⟨2, [], words⟩
  | listing t => ⟨0, Text.utf8 t, []⟩
  | output target reports bytes complete =>
    match delivery with
    | .error fault => ⟨2, [], reports ++ fault.message⟩
    | .ok () => ⟨if complete then 0 else 1, if target.isNone then bytes else [], reports⟩

end WikiAxioms.Command
