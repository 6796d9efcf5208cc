import WikiAxioms.Catalog.Registry
import WikiAxioms.Entity

/-!
# Options of the command

What the arguments of the command ask for. Arguments are taken one by one; an option that needs a
value may hold it, after a sign of equality or right behind its letter, or wait for the next one.
-/

namespace WikiAxioms.Command

open WikiAxioms.Catalog

inductive OutputFormat where
  | owl
  | ntriples
  deriving DecidableEq

inductive InputFormat where
  /-- Lines with a property, a tab and a declaration. -/
  | tsv
  /-- A page with declarations for one property. -/
  | page
  deriving DecidableEq

structure Options where
  /-- The file to read; standard input if there is none. -/
  input : Option Text
  format : OutputFormat
  inputFormat : InputFormat
  property : Option PropertyId
  config : Option Text
  /-- The file to write; standard output if there is none. -/
  output : Option Text
  policy : Option Policy
  prelude : Bool
  listKinds : Bool
  verbose : Bool

def Options.default : Options where
  input := none
  format := .owl
  inputFormat := .tsv
  property := none
  config := none
  output := none
  policy := none
  prelude := false
  listKinds := false
  verbose := false

inductive OptionName where
  | format
  | inputFormat
  | property
  | config
  | output
  | unknownParameters
  | prelude
  | listKinds
  | verbose
  deriving DecidableEq

namespace OptionName

def all : List OptionName :=
  [format, inputFormat, property, config, output, unknownParameters, prelude, listKinds, verbose]

def long : OptionName → Text
  | format => "format"
  | inputFormat => "input-format"
  | property => "property"
  | config => "config"
  | output => "output"
  | unknownParameters => "unknown-parameters"
  | prelude => "prelude"
  | listKinds => "list-kinds"
  | verbose => "verbose"

def short? : OptionName → Option Char
  | format => some 'f'
  | inputFormat => some 'i'
  | property => some 'p'
  | config => some 'c'
  | output => some 'o'
  | verbose => some 'v'
  | _ => none

/-- Whether the option is nothing without a value. -/
def needsValue : OptionName → Bool
  | prelude => false
  | listKinds => false
  | verbose => false
  | _ => true

/-- The option with a name for its value. -/
def shown (name : OptionName) : Text :=
  let value := (name.long.map fun c => if c = '-' then '_' else c).map Char.toUpper
  "--" ++ name.long ++ if name.needsValue then " <" ++ value ++ ">" else []

end OptionName

/-- Why arguments make no sense. -/
inductive UsageFault where
  | unexpected (argument : Text)
  | missingValue (name : OptionName)
  | superfluousValue (name : OptionName) (value : Text)
  | repeated (name : OptionName)
  /-- The value is none of the words for it. -/
  | unknownWord (name : OptionName) (value : Text) (choices : List Text)
  | property (value : Text) (fault : EntityId.Fault)

def UsageFault.words : UsageFault → Text
  | unexpected argument => "unexpected argument '" ++ argument ++ "' found"
  | missingValue name => "a value is required for '" ++ name.shown ++ "' but none was supplied"
  | superfluousValue name value =>
    "unexpected value '" ++ value ++ "' for '" ++ name.shown ++ "' found; no more were expected"
  | repeated name => "the argument '" ++ name.shown ++ "' cannot be used multiple times"
  | unknownWord name value choices =>
    "invalid value '" ++ value ++ "' for '" ++ name.shown ++ "'\n  [possible values: " ++
      Text.join ", " choices ++ "]"
  | property value fault =>
    "invalid value '" ++ value ++ "' for '" ++ OptionName.property.shown ++ "': " ++ fault.message

def UsageFault.message (f : UsageFault) : Text :=
  "error: " ++ f.words ++ "\n\nFor more information, try '--help'.\n"

/-- The meaning of one of the words for a value. -/
def chosen {α : Type} (name : OptionName) (value : Text) (choices : List (Text × α)) :
    Except UsageFault α :=
  match choices.lookup value with
  | some a => .ok a
  | none => .error (.unknownWord name value (choices.map (·.1)))

/-- The name of a file. -/
def fileNamed (name : OptionName) (value : Text) : Except UsageFault Text :=
  if value = [] then .error (.missingValue name) else .ok value

/-- The options after one of them was given a value. -/
def Options.set (o : Options) (name : OptionName) (value : Text) : Except UsageFault Options :=
  match name with
  | .format => do
    return { o with format := ← chosen name value [("owl", .owl), ("ntriples", .ntriples)] }
  | .inputFormat => do
    return { o with inputFormat := ← chosen name value [("tsv", .tsv), ("page", .page)] }
  | .property =>
    match EntityId.ofText .property value with
    | .ok id => .ok { o with property := some id }
    | .error fault => .error (.property value fault)
  | .config => do return { o with config := some (← fileNamed name value) }
  | .output => do return { o with output := some (← fileNamed name value) }
  | .unknownParameters => do
    let policy ← chosen name value ([Policy.ignore, .warn, .reject].map fun p => (p.name, p))
    return { o with policy := some policy }
  | _ => .error (.superfluousValue name value)

/-- The options after one that takes no value was switched on. -/
def Options.switchOn (o : Options) : OptionName → Options
  | .prelude => { o with prelude := true }
  | .listKinds => { o with listKinds := true }
  | .verbose => { o with verbose := true }
  | _ => o

/-- What is known after some arguments. -/
structure ArgumentState where
  options : Options
  /-- The options given so far. -/
  given : List OptionName
  /-- The option that waits for its value. -/
  waiting : Option OptionName
  /-- Whether all further arguments are names of files. -/
  filesOnly : Bool

namespace ArgumentState

/-- Notes that an option is given, which may happen once. -/
def note (s : ArgumentState) (name : OptionName) : Except UsageFault ArgumentState :=
  if name ∈ s.given then .error (.repeated name) else .ok { s with given := name :: s.given }

def setValue (s : ArgumentState) (name : OptionName) (value : Text) :
    Except UsageFault ArgumentState := do
  return { s with options := ← s.options.set name value, waiting := none }

/-- Takes an option with the value that its own argument holds, if it holds one. -/
def takeOption (s : ArgumentState) (name : OptionName) (value : Option Text) :
    Except UsageFault ArgumentState := do
  let s ← s.note name
  match value with
  | some value => s.setValue name value
  | none =>
    if name.needsValue then return { s with waiting := some name }
    else return { s with options := s.options.switchOn name }

/-- Takes the letters after a dash, up to the first one that needs a value. -/
def takeLetters (argument : Text) (s : ArgumentState) : Text → Except UsageFault ArgumentState
  | [] => .ok s
  | c :: t =>
    match OptionName.all.find? (·.short? == some c) with
    | none => .error (.unexpected argument)
    | some name =>
      if name.needsValue then
        match t with
        | [] => s.takeOption name none
        | '=' :: value => s.takeOption name (some value)
        | value => s.takeOption name (some value)
      else do takeLetters argument (← s.takeOption name none) t

/-- Takes the name of an option after two dashes, with its value if it has one. -/
def takeLong (argument : Text) (s : ArgumentState) (t : Text) : Except UsageFault ArgumentState :=
  let (word, value) := match t.cutAt "=" with
    | some (word, value) => (word, some value)
    | none => (t, none)
  match OptionName.all.find? (·.long == word) with
  | none => .error (.unexpected argument)
  | some name => s.takeOption name value

def takeFile (s : ArgumentState) (argument : Text) : Except UsageFault ArgumentState :=
  match s.options.input with
  | some _ => .error (.unexpected argument)
  | none => .ok { s with options := { s.options with input := some argument } }

/-- Takes one argument. -/
def take (s : ArgumentState) (argument : Text) : Except UsageFault ArgumentState :=
  match s.waiting, argument with
  | some name, '-' :: _ :: _ => .error (.missingValue name)
  | some name, value => s.setValue name value
  | none, _ =>
    if s.filesOnly then s.takeFile argument
    else match argument with
      | ['-', '-'] => .ok { s with filesOnly := true }
      | '-' :: '-' :: t => s.takeLong argument t
      | '-' :: c :: t => s.takeLetters argument (c :: t)
      | _ => s.takeFile argument

end ArgumentState

/-- The options that arguments ask for. -/
def Options.ofArguments (arguments : List Text) : Except UsageFault Options := do
  let s ← arguments.foldlM ArgumentState.take ⟨.default, [], none, false⟩
  match s.waiting with
  | some name => throw (.missingValue name)
  | none => return s.options

end WikiAxioms.Command
