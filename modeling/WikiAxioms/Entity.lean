import WikiAxioms.Text.Basic

/-!
# Identifiers of items and properties

An entity is named by a letter for its kind and a positive number written without leading zeros.
An identifier keeps the digits, so two identifiers of one kind are equal exactly when their digits
are.
-/

namespace WikiAxioms

inductive EntityKind where
  | item
  | property
  deriving DecidableEq, Repr

def EntityKind.letter : EntityKind → Char
  | .item => 'Q'
  | .property => 'P'

def EntityKind.word : EntityKind → Text
  | .item => "item"
  | .property => "property"

/-- One or more decimal digits, the first of which is not zero. -/
def isNumeral : Text → Bool
  | [] => false
  | c :: digits => c != '0' && (c :: digits).all Char.isDigit

structure EntityId (kind : EntityKind) where
  digits : Text
  numeral : isNumeral digits = true
  deriving DecidableEq

abbrev ItemId := EntityId .item

abbrev PropertyId := EntityId .property

/-- Why a text names no entity of the wanted kind. -/
inductive EntityId.Fault where
  | empty (kind : EntityKind)
  /-- The text is kept as it was given, white space included. -/
  | malformed (kind : EntityKind) (raw : Text)
  deriving DecidableEq

def EntityId.Fault.message : EntityId.Fault → Text
  | .empty kind => "empty " ++ kind.word ++ " identifier"
  | .malformed kind raw =>
    "'" ++ raw ++ "' is not a valid " ++ kind.word ++ " identifier (expected " ++ [kind.letter] ++
      " followed by a number)"

namespace EntityId

/-- Reads the letter of the kind, in either case, and a numeral, white space around them aside. -/
def ofText (kind : EntityKind) (raw : Text) : Except Fault (EntityId kind) :=
  match raw.trim with
  | [] => .error (.empty kind)
  | c :: digits =>
    if h : c.toUpper = kind.letter ∧ isNumeral digits = true then .ok ⟨digits, h.2⟩
    else .error (.malformed kind raw)

def text {kind : EntityKind} (id : EntityId kind) : Text := kind.letter :: id.digits

/-- Identifiers are ordered as their texts are, character by character. -/
instance {kind : EntityKind} : Ord (EntityId kind) := ⟨fun a b => compare a.text b.text⟩

end EntityId

/-- The property that says of which class a thing is an instance. -/
def PropertyId.instanceOf : PropertyId := ⟨"31", by decide⟩

/-- The property that says of which class a class is a subclass. -/
def PropertyId.subclassOf : PropertyId := ⟨"279", by decide⟩

end WikiAxioms
