import WikiAxioms.Binary64
import WikiAxioms.Text.Span

/-!
# Contents of a TOML document

A document is a table of named items. Tables remember how they came to be, since that decides what
may still be added to them: `Table.openHeader`, `Table.openElement` and `Table.assign` are the three
ways in which a document grows, and each refuses what would define something twice.
-/

namespace WikiAxioms.Toml

inductive Scalar where
  | string (value : Text)
  | integer (value : Int)
  | float (value : Binary64)
  | boolean (value : Bool)
  /-- A date, a time of day, or both. -/
  | moment

structure Key where
  name : Text
  span : Span

/-- How a table came to be. -/
inductive Form where
  /-- Written in braces. -/
  | inline
  /-- Under a header of its own. -/
  | header
  /-- Named on the way to the table of another header. -/
  | implied
  /-- Named on the way to the last part of a dotted key. -/
  | dotted
  deriving DecidableEq

mutual

inductive Item where
  | scalar (span : Span) (value : Scalar)
  | array (span : Span) (items : List Item)
  | table (t : Table)
  /-- Tables under the same doubled header. -/
  | tables (items : List Table)

/-- A table has a place in the text unless it was only named on the way to another. -/
inductive Table where
  | mk (form : Form) (span : Option Span) (entries : List (Key × Item))

end

namespace Table

def form : Table → Form
  | mk form _ _ => form

def span : Table → Option Span
  | mk _ span _ => span

def entries : Table → List (Key × Item)
  | mk _ _ entries => entries

def empty (form : Form) (span : Option Span) : Table := mk form span []

def find? (t : Table) (name : Text) : Option Item :=
  (t.entries.find? fun e => e.1.name == name).map (·.2)

def append (t : Table) (key : Key) (n : Item) : Table := mk t.form t.span (t.entries ++ [(key, n)])

def remove (t : Table) (name : Text) : Table :=
  mk t.form t.span (t.entries.filter fun e => e.1.name != name)

/-- Puts another item into the place of one. -/
def replace (t : Table) (name : Text) (n : Item) : Table :=
  mk t.form t.span (t.entries.map fun e => if e.1.name = name then (e.1, n) else e)

/-- Whether keys or headers may lead through a table: never into braces, and dotted keys not into
what has a header. -/
def isOpenTo (t : Table) (made : Form) : Bool :=
  t.form != .inline && (made != .dotted || t.form != .header)

/-- Changes the table that a path leads to, the last one of those under a doubled header. What is
missing on the way is made. -/
def change (made : Form) (f : Table → Option Table) : List Key → Table → Option Table
  | [], t => f t
  | key :: path, t =>
    match t.find? key.name with
    | none => (change made f path (empty made none)).map fun new => t.append key (.table new)
    | some (.table inner) =>
      if inner.isOpenTo made then
        (change made f path inner).map fun new => t.replace key.name (.table new)
      else none
    | some (.tables items) =>
      match items.reverse with
      | [] => none
      | last :: front =>
        (change made f path last).map fun new =>
          t.replace key.name (.tables (front.reverse ++ [new]))
    | some _ => none

/-- Opens a table under a header. What was only named on the way to other tables is taken over. -/
def openHeader (path : List Key) (key : Key) (span : Span) (root : Table) : Option Table :=
  change .implied (fun t =>
    match t.find? key.name with
    | none => some (t.append key (.table (empty .header (some span))))
    | some (.table inner) =>
      if inner.form = .implied then
        some ((t.remove key.name).append key (.table (mk .header (some span) inner.entries)))
      else none
    | some _ => none) path root

/-- Opens one more table under a doubled header. -/
def openElement (path : List Key) (key : Key) (span : Span) (root : Table) : Option Table :=
  let new := empty .header (some span)
  change .implied (fun t =>
    match t.find? key.name with
    | none => some (t.append key (.tables [new]))
    | some (.tables items) => some (t.replace key.name (.tables (items ++ [new])))
    | some _ => none) path root

/-- Lets the place of a table reach as far as that of its last value. -/
def extend (t : Table) (last : Nat) : Table :=
  mk t.form (t.span.map fun s => ⟨s.first, last⟩) t.entries

/-- Gives a name its value. A table that a dotted key leads to must have come from such a key. -/
def assign (path : List Key) (key : Key) (n : Item) : Table → Option Table :=
  change .dotted (fun t =>
    if (t.form == .dotted) == path.isEmpty then none
    else match t.find? key.name with
      | none => some (t.append key n)
      | some _ => none) path

end Table

/-- Where an item stands; a list of tables reaches from the first to the last one. -/
def Item.span : Item → Option Span
  | scalar span _ => some span
  | array span _ => some span
  | table t => t.span
  | tables items =>
    match items.head?.bind Table.span, items.getLast?.bind Table.span with
    | some a, some b => some ⟨a.first, b.last⟩
    | _, _ => none

end WikiAxioms.Toml
