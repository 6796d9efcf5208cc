import WikiAxioms.Toml.Bare

/-!
# Keys and values

Readers for keys, which may be dotted, and for values, which may nest up to a limit. `size` is the
length of the whole document in bytes, from which places in it are worked out.
-/

namespace WikiAxioms.Toml

/-- How deep values may nest and how many parts a dotted key may have. -/
def depthLimit : Nat := 79

def isBlank (c : Char) : Bool := c == ' ' || c == '\t'

def skipBlanks (t : Text) : Text := t.dropWhile isBlank

def isKeyCharacter (c : Char) : Bool := c.isAlphanum || c == '-' || c == '_'

/-- Reads one part of a key. -/
def readKeyPart (size : Nat) (t : Text) : Option (Key × Text) :=
  match t with
  | [] => none
  | c :: _ =>
    if c = '"' ∨ c = '\'' then
      (readShort t).map fun (name, rest) => (⟨name, .between size t rest⟩, rest)
    else
      let rest := t.dropWhile isKeyCharacter
      if isKeyCharacter c then some (⟨t.takeWhile isKeyCharacter, .between size t rest⟩, rest)
      else none

/-- Reads the parts of a key, at most `fuel`, with dots and blanks between them: the parts in front
of the last one, and that one. -/
def readKey (size : Nat) : Nat → Text → Option (List Key × Key × Text)
  | 0, _ => none
  | fuel + 1, t => do
    let (key, t) ← readKeyPart size (skipBlanks t)
    match skipBlanks t with
    | '.' :: t =>
      let (path, last, t) ← readKey size fuel t
      return (key :: path, last, t)
    | t => return ([], key, t)

/-- Skips blanks, line ends and comments; `inside` says whether a comment is under way, which must
not be the case at the end of the text. -/
def skipLines (inside : Bool) : Text → Option Text
  | [] => if inside then none else some []
  | '\n' :: t => skipLines false t
  | '\r' :: '\n' :: t => skipLines false t
  | c :: t =>
    if inside then if isPlain c then skipLines true t else none
    else if isBlank c then skipLines false t
    else if c = '#' then skipLines true t
    else some (c :: t)

/-- Reads the items of an array up to its closing bracket, which a comma may precede. -/
def readItems (read : Text → Option (Item × Text)) : Nat → Text → Option (List Item × Text)
  | 0, _ => none
  | fuel + 1, t => do
    match ← skipLines false t with
    | ']' :: t => return ([], t)
    | t =>
      let (item, t) ← read t
      match ← skipLines false t with
      | ',' :: t => (readItems read fuel t).map (Prod.map (item :: ·) id)
      | ']' :: t => return ([item], t)
      | _ => none

/-- Reads the entries of a table in braces up to the closing one. -/
def readEntries (size : Nat) (read : Text → Option (Item × Text)) (table : Table) :
    Nat → Text → Option (Table × Text)
  | 0, _ => none
  | fuel + 1, t => do
    let (path, key, t) ← readKey size depthLimit t
    let t ← afterSign '=' t
    let (value, t) ← read (skipBlanks t)
    let table ← table.assign path key value
    match skipBlanks t with
    | ',' :: t => readEntries size read table fuel t
    | '\x7d' :: t => return (table, t)
    | _ => none

/-- Gives a table in braces its place. -/
def placed (span : Span) (t : Table) : Item := .table (.mk .inline (some span) t.entries)

/-- Reads a value with at most `depth` further levels inside it. -/
def readValue (size : Nat) (depth : Nat) (t : Text) : Option (Item × Text) :=
  match t, depth with
  | '[' :: inner, depth + 1 => do
    let (items, rest) ← readItems (readValue size depth) (inner.length + 1) inner
    return (.array (.between size t rest) items, rest)
  | '\x7b' :: inner, depth + 1 =>
    match skipBlanks inner with
    | '\x7d' :: rest => some (placed (.between size t rest) (.empty .inline none), rest)
    | inner => do
      let (table, rest) ←
        readEntries size (readValue size depth) (.empty .inline none) (inner.length + 1) inner
      return (placed (.between size t rest) table, rest)
  | c :: _, _ => do
    if c = '"' ∨ c = '\'' then
      let (value, rest) ← readQuoted t
      return (.scalar (.between size t rest) (.string value), rest)
    else
      let (value, rest) ← readBare t
      return (.scalar (.between size t rest) value, rest)
  | [], _ => none

end WikiAxioms.Toml
