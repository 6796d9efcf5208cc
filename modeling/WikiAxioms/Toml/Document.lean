import WikiAxioms.Toml.Value

/-!
# TOML documents

`Table.ofText` reads a document line by line. Why a document is refused is not told.
-/

namespace WikiAxioms.Toml

structure Draft where
  root : Table
  /-- Where the table of the last header is. -/
  here : List Key

/-- Reads the rest of a line, which holds at most a comment; yields the lines after it. -/
def endLine (t : Text) : Option Text :=
  let t := match skipBlanks t with
    | '#' :: t => t.dropWhile isPlain
    | t => t
  match t with
  | [] => some []
  | '\n' :: t => some t
  | '\r' :: '\n' :: t => some t
  | _ => none

/-- Reads a header from after its opening bracket. -/
def readHeader (size : Nat) (d : Draft) (t : Text) : Option (Draft × Text) := do
  match t with
  | '[' :: inner =>
    let (path, key, rest) ← readKey size depthLimit inner
    let rest ← afterSign ']' (← afterSign ']' rest)
    let root ← d.root.openElement path key (.between size ('[' :: t) rest)
    return (⟨root, path ++ [key]⟩, ← endLine rest)
  | _ =>
    let (path, key, rest) ← readKey size depthLimit t
    let rest ← afterSign ']' rest
    let root ← d.root.openHeader path key (.between size ('[' :: t) rest)
    return (⟨root, path ++ [key]⟩, ← endLine rest)

/-- Reads a key with its value. -/
def readAssignment (size : Nat) (d : Draft) (t : Text) : Option (Draft × Text) := do
  let (path, key, t) ← readKey size depthLimit t
  let (value, rest) ← readValue size depthLimit (skipBlanks (← afterSign '=' t))
  let root ← d.root.change .implied
    (fun table => (table.assign path key value).map (·.extend (size - rest.byteLength))) d.here
  return (⟨root, d.here⟩, ← endLine rest)

/-- Reads what is left of a document; each line consumes at least one character of it. -/
def readLines (size : Nat) : Nat → Draft → Text → Option Table
  | 0, _, _ => none
  | fuel + 1, d, t =>
    match skipBlanks t with
    | [] => some d.root
    | '[' :: t => do
      let (d, t) ← readHeader size d t
      readLines size fuel d t
    | c :: t => do
      if c = '#' ∨ c = '\n' ∨ c = '\r' then readLines size fuel d (← endLine (c :: t))
      else
        let (d, t) ← readAssignment size d (c :: t)
        readLines size fuel d t

/-- Drops the mark of byte order at the start. -/
def dropMark : Text → Text
  | '\ufeff' :: t => t
  | t => t

/-- The table that a document writes, if it is one. -/
def Table.ofText (t : Text) : Option Table :=
  readLines t.byteLength (t.length + 1) ⟨.empty .header none, []⟩ (dropMark t)

end WikiAxioms.Toml
