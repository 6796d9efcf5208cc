import WikiAxioms.Entries
import WikiAxioms.Markup.Token

/-!
# Templates

A template has a name, positional arguments and named arguments. Named arguments are kept in the
order in which their keys first came, each key once; two collections are equivalent when they give
every key the same value, whatever their order.
-/

namespace WikiAxioms.Markup

/-- Named arguments in order of first mention. -/
structure NamedArguments where
  entries : List (Text × Text)
  nodup : (entries.map Prod.fst).Nodup

namespace NamedArguments

def empty : NamedArguments := ⟨[], List.nodup_nil⟩

def insert (a : NamedArguments) (key value : Text) : NamedArguments :=
  ⟨setEntry key value a.entries, nodup_setEntry key value a.nodup⟩

def get? (a : NamedArguments) (key : Text) : Option Text := a.entries.lookup key

/-- Sets `key` to `value` and takes out the value that is replaced, if there is one. -/
def exchange (a : NamedArguments) (key value : Text) : Option Text × NamedArguments :=
  let outcome := exchangeEntry key value a.entries
  (outcome.1, ⟨outcome.2, nodup_exchangeEntry key value a.nodup⟩)

/-- What is replaced is what the key had, and what is left is the same as after `insert`. -/
theorem exchange_eq (a : NamedArguments) (key value : Text) :
    a.exchange key value = (a.get? key, a.insert key value) := by
  simp [exchange, exchangeEntry_eq, get?, insert]

def keys (a : NamedArguments) : List Text := a.entries.map Prod.fst

def size (a : NamedArguments) : Nat := a.entries.length

def isEmpty (a : NamedArguments) : Bool := a.entries.isEmpty

def ofList (es : List (Text × Text)) : NamedArguments :=
  es.foldl (fun a e => a.insert e.1 e.2) empty

/-- As many keys, and every key of the first has the same value in the second. -/
instance : BEq NamedArguments :=
  ⟨fun a b => a.size == b.size && a.entries.all fun e => b.get? e.1 == some e.2⟩

end NamedArguments

structure Template where
  name : Text
  positional : List Text
  named : NamedArguments

namespace Template

def ofName (name : Text) : Template := ⟨name, [], .empty⟩

def withPositional (t : Template) (value : Text) : Template :=
  { t with positional := t.positional ++ [value] }

def withNamed (t : Template) (key value : Text) : Template :=
  { t with named := t.named.insert key value }

def get? (t : Template) (key : Text) : Option Text := t.named.get? key

/-- The order of named arguments does not matter. -/
instance : BEq Template :=
  ⟨fun a b => a.name == b.name && a.positional == b.positional && a.named == b.named⟩

/-- Characters that would split a value or be refused in it. -/
def isSeparator (c : Char) : Bool := c == '|' || c == '=' || c == '\x7b' || c == '\x7d'

/-- Whether a value has to be protected; one that holds a closing marker cannot be. -/
def needsProtection (value : Text) : Bool :=
  (value.any isSeparator || value.contains ['[', '[']) && !value.contains nowikiClosing

/-- A value as it is written in a field. -/
def protect (value : Text) : Text :=
  if needsProtection value then nowikiOpening ++ value ++ nowikiClosing else value

/-- The template as a declaration. -/
def render (t : Template) : Text :=
  ['\x7b', '\x7b'] ++ t.name ++ t.positional.flatMap (fun v => '|' :: protect v) ++
    t.named.entries.flatMap (fun e => '|' :: e.1 ++ '=' :: protect e.2) ++ ['\x7d', '\x7d']

end Template

end WikiAxioms.Markup
