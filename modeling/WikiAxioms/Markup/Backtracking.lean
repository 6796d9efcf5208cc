import WikiAxioms.Markup.Declaration

/-!
# Reading declarations with steps back

Each alternative starts where the one before it did, and a link that is not closed is given back as
a whole. Of all failures only the one furthest on is kept, with what could have stood there.
`readDeclaration` finds the same fields and the same failures in one pass.
-/

namespace WikiAxioms.Markup.Backtracking

/-- The tokens from the place of a failure on, and what could have stood there. -/
structure Failure where
  rest : List Token
  expected : List Text
  deriving DecidableEq

/-- The failure that lies further on; two at one place count as one. -/
def Failure.furthest (a b : Failure) : Failure :=
  if b.rest.length < a.rest.length then b
  else if a.rest.length < b.rest.length then a
  else ⟨a.rest, a.expected ++ b.expected.filter fun words => !a.expected.contains words⟩

/-- What was read and the tokens behind it, none if reading failed, and the furthest failure. -/
structure Outcome (α : Type) where
  found : Option (α × List Token)
  failure : Option Failure
  deriving DecidableEq

def Outcome.map {α β : Type} (f : α → β) (o : Outcome α) : Outcome β :=
  ⟨o.found.map fun read => (f read.1, read.2), o.failure⟩

/-- A reader is given the furthest failure before it. -/
abbrev Reader (α : Type) := List Token → Option Failure → Outcome α

def note (known : Option Failure) (new : Failure) : Failure :=
  match known with
  | none => new
  | some old => old.furthest new

variable {α β γ : Type}

def fail (expected : List Text) : Reader α := fun ts known =>
  ⟨none, some (note known ⟨ts, expected⟩)⟩

/-- One token of the kind `p`. -/
def one (expected : List Text) (p : Token → Bool) : Reader Token
  | [], known => fail expected [] known
  | t :: ts, known => if p t then ⟨some (t, ts), known⟩ else fail expected (t :: ts) known

def just (k : Token) : Reader Token := one [k.describe] (· == k)

/-- One token of a kind that failures do not name. -/
def oneOf (p : Token → Bool) : Reader Token := one [] p

def finish : Reader Unit
  | [], known => ⟨some ((), []), known⟩
  | t :: ts, known => fail ["end of input"] (t :: ts) known

def map (f : α → β) (p : Reader α) : Reader β := fun ts known => (p ts known).map f

/-- One reader after the other. -/
def both (combine : α → β → γ) (p : Reader α) (q : Reader β) : Reader γ := fun ts known =>
  match p ts known with
  | ⟨none, known⟩ => ⟨none, known⟩
  | ⟨some (a, rest), known⟩ => (q rest known).map (combine a)

def ignoreThen (p : Reader α) (q : Reader β) : Reader β := both (fun _ b => b) p q

def thenIgnore (p : Reader α) (q : Reader β) : Reader α := both (fun a _ => a) p q

/-- The second reader starts where the first one did, if that one fails. -/
def orElse (p q : Reader α) : Reader α := fun ts known =>
  match p ts known with
  | ⟨none, known⟩ => q ts known
  | ⟨some read, known⟩ => ⟨some read, known⟩

def optional (p : Reader α) : Reader (Option α) := fun ts known =>
  match p ts known with
  | ⟨none, known⟩ => ⟨some (none, ts), known⟩
  | ⟨some (a, rest), known⟩ => ⟨some (some a, rest), known⟩

/-- As often as the reader succeeds and goes on; what it took before it failed is given back. -/
def many (p : Reader α) : Reader (List α) := fun ts known =>
  match p ts known with
  | ⟨none, known⟩ => ⟨some ([], ts), known⟩
  | ⟨some (a, rest), known⟩ =>
    if rest.length < ts.length then (many p rest known).map (a :: ·)
    else ⟨some ([a], rest), known⟩
termination_by ts _ => ts.length

/-! ## Declarations -/

def padding : Reader (Option Token) := optional (oneOf Token.isPadding)

def link : Reader Field :=
  both (fun f t => f ++ [t])
    (both List.cons (just .linkOpening) (many (oneOf Token.fitsLink))) (just .linkClosing)

def piece : Reader Field := orElse (map (fun t => [t]) (oneOf Token.fitsField)) link

def field : Reader Field := map List.flatten (many piece)

def declaration : Reader (Field × List Field) :=
  thenIgnore
    (thenIgnore
      (thenIgnore
        (both Prod.mk (ignoreThen (ignoreThen padding (just .opening)) field)
          (many (ignoreThen (just .pipe) field)))
        (just .closing))
      padding)
    finish

/-- Reads a list of tokens from its start. -/
def run (p : Reader α) (ts : List Token) : Except (Option Failure) α :=
  match p ts none with
  | ⟨none, failure⟩ => .error failure
  | ⟨some (a, _), _⟩ => .ok a

end WikiAxioms.Markup.Backtracking
