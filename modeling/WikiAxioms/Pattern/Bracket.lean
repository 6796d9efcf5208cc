import WikiAxioms.Pattern.Escape

/-!
# Bracketed classes

Reading a class in brackets, with classes inside it and operators between them. The reader keeps a
stack of what is open and takes one step after another; each step consumes a character.
-/

namespace WikiAxioms.Pattern

/-- Takes steps until one yields a result. `fuel` bounds their number, and `spent` is the fault if
it runs out, which it does not where each step shortens a text shorter than `fuel`. -/
def iterate {σ α : Type} (step : σ → Except Fault (σ ⊕ α)) (spent : Fault) :
    Nat → σ → Except Fault α
  | 0, _ => .error spent
  | fuel + 1, s =>
    match step s with
    | .error fault => .error fault
    | .ok (.inl s) => iterate step spent fuel s
    | .ok (.inr a) => .ok a

/-- Something inside a class that is not finished yet. -/
inductive Pending where
  /-- A class with the members in front of it, the nearest first. -/
  | bracket (before : List Members) (negated : Bool)
  /-- An operator with its left operand. -/
  | operand (operator : SetOperator) (left : Members)

structure BracketState where
  stack : List Pending
  /-- The members of the innermost class or operand so far, the last one first. -/
  items : List Members
  rest : Text

/-- Takes what stands in front of it as a member of a class. -/
def Atom.member : Atom → Except Fault Members
  | letter l => .ok (.letter l)
  | shorthand s negated => .ok (.shorthand s negated)
  | property p negated => .ok (.property p negated)
  | dot => .error .classEscape
  | edge => .error .classEscape

/-- Takes it as a bound of a range. -/
def Atom.bound : Atom → Except Fault Letter
  | letter l => .ok l
  | _ => .error .classRangeBound

/-- Reads a character or an escape sequence inside a class. -/
def readMember (spaced : Bool) : Text → Except Fault (Atom × Text)
  | [] => .error .classUnclosed
  | '\\' :: t => readEscape spaced t
  | c :: t => .ok (.letter ⟨c, false⟩, t)

/-- Reads a member or a range of characters. A dash in front of a closing bracket or of another dash
makes no range. -/
def readRange (spaced : Bool) (t : Text) : Except Fault (Members × Text) := do
  let (first, rest) ← readMember spaced t
  match skip spaced rest with
  | [] => throw .classUnclosed
  | '-' :: rest =>
    if peekAfter spaced rest = some ']' ∨ peekAfter spaced rest = some '-' then
      return (← first.member, '-' :: rest)
    else
      let (last, rest) ← readMember spaced (skip spaced rest)
      let first ← first.bound
      let last ← last.bound
      if last.char < first.char then throw .classRangeReversed
      return (.range first last, rest)
  | rest => return (← first.member, rest)

/-- Dashes at the start of a class stand for themselves. -/
def readDashes (spaced : Bool) (t : Text) : List Members × Text :=
  (takeRun spaced (· == '-') t).map (List.map fun c => .letter ⟨c, false⟩) id

/-- Reads what follows an opening bracket: a sign that negates, and dashes or a closing bracket that
stand for themselves. -/
def openBracket (spaced : Bool) (t : Text) : Except Fault (Bool × List Members × Text) :=
  let (negated, t) := match skip spaced t with
    | '^' :: t => (true, skip spaced t)
    | t => (false, t)
  match readDashes spaced t with
  | (_, []) => .error .classUnclosed
  | ([], ']' :: t) =>
    match skip spaced t with
    | [] => .error .classUnclosed
    | t => .ok (negated, [.letter ⟨']', false⟩], t)
  | (dashes, t) => .ok (negated, dashes, t)

/-- The classes of ASCII characters that go by a name. -/
def asciiClasses : List (Text × CodePointRanges) :=
  [("alnum", [(0x30, 0x39), (0x41, 0x5A), (0x61, 0x7A)]), ("alpha", [(0x41, 0x5A), (0x61, 0x7A)]),
   ("ascii", [(0, 0x7F)]), ("blank", [(0x09, 0x09), (0x20, 0x20)]),
   ("cntrl", [(0, 0x1F), (0x7F, 0x7F)]), ("digit", [(0x30, 0x39)]), ("graph", [(0x21, 0x7E)]),
   ("lower", [(0x61, 0x7A)]), ("print", [(0x20, 0x7E)]),
   ("punct", [(0x21, 0x2F), (0x3A, 0x40), (0x5B, 0x60), (0x7B, 0x7E)]),
   ("space", [(0x09, 0x0D), (0x20, 0x20)]), ("upper", [(0x41, 0x5A)]),
   ("word", [(0x30, 0x39), (0x41, 0x5A), (0x5F, 0x5F), (0x61, 0x7A)]),
   ("xdigit", [(0x30, 0x39), (0x41, 0x46), (0x61, 0x66)])]

/-- Reads the named class of ASCII characters that follows an opening bracket, if one does. -/
def asciiClass? : Text → Option (Members × Text)
  | ':' :: t =>
    let (negated, t) := match t with
      | '^' :: t => (true, t)
      | t => (false, t)
    match Text.after? (t.dropWhile (· != ':')) [':', ']'] with
    | some rest =>
      (asciiClasses.lookup (t.takeWhile (· != ':'))).map fun content =>
        (.ascii content negated, rest)
    | none => none
  | _ => none

/-- Finishes the operator that waits for its right operand, if one does. -/
def closeOperand (items : List Members) : List Pending → Members × List Pending
  | .operand operator left :: stack => (.combined operator left (.ofList items.reverse), stack)
  | stack => (.ofList items.reverse, stack)

/-- Takes an operator: what precedes it becomes its left operand. -/
def pushOperator (s : BracketState) (operator : SetOperator) (rest : Text) : BracketState :=
  let (left, stack) := closeOperand s.items s.stack
  ⟨.operand operator left :: stack, [], rest⟩

/-- Takes a closing bracket. The outermost class yields the result. -/
def closeBracket (s : BracketState) (rest : Text) : BracketState ⊕ (Bool × Members × Text) :=
  match closeOperand s.items s.stack with
  | (content, .bracket before negated :: stack) =>
    if stack.isEmpty then .inr (negated, content, rest)
    else .inl ⟨stack, .bracketed negated content :: before, rest⟩
  | (content, stack) => .inl ⟨stack, [content], rest⟩

/-- One step inside a class. -/
def bracketStep (spaced : Bool) (s : BracketState) :
    Except Fault (BracketState ⊕ (Bool × Members × Text)) :=
  match skip spaced s.rest with
  | [] => .error .classUnclosed
  | '[' :: t =>
    match asciiClass? t with
    | some (item, rest) => .ok (.inl ⟨s.stack, item :: s.items, rest⟩)
    | none => do
      let (negated, items, rest) ← openBracket spaced t
      return .inl ⟨.bracket s.items negated :: s.stack, items, rest⟩
  | ']' :: t => .ok (closeBracket s t)
  | '&' :: '&' :: t => .ok (.inl (pushOperator s .intersection t))
  | '-' :: '-' :: t => .ok (.inl (pushOperator s .difference t))
  | '~' :: '~' :: t => .ok (.inl (pushOperator s .symmetricDifference t))
  | t => do
    let (item, rest) ← readRange spaced t
    return .inl ⟨s.stack, item :: s.items, rest⟩

/-- Reads a class from after its opening bracket: whether it is negated, and its contents. -/
def readBracketed (spaced : Bool) (t : Text) : Except Fault (Bool × Members × Text) := do
  let (negated, items, rest) ← openBracket spaced t
  iterate (bracketStep spaced) .classUnclosed (rest.length + 1)
    ⟨[.bracket [] negated], items, rest⟩

end WikiAxioms.Pattern
