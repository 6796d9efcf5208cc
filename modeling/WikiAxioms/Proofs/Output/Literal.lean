import WikiAxioms.Output.Literal

/-!
# Quoted literals read again

A literal ends at the first quote that is not escaped. Reading up to there and undoing the escapes
gives the content back and leaves what follows the literal, whatever stands in either.
-/

namespace WikiAxioms.Output

/-- What a letter behind a backslash stands for on a line of axioms. -/
def lineLetter? : Char → Option Char
  | '\\' => some '\\'
  | '"' => some '"'
  | 'n' => some '\n'
  | 'r' => some '\r'
  | _ => none

/-- What a letter behind a backslash stands for in triples. -/
def tripleLetter? : Char → Option Char
  | 't' => some '\t'
  | letter => lineLetter? letter

/-- Reads the rest of a literal, behind its first quote: its content and what follows it. -/
def readLiteral (letter? : Char → Option Char) : Text → Option (Text × Text)
  | [] => none
  | '"' :: rest => some ([], rest)
  | '\\' :: [] => none
  | '\\' :: letter :: rest =>
    match letter? letter with
    | some c => (readLiteral letter? rest).map fun parts => (c :: parts.1, parts.2)
    | none => none
  | c :: rest => (readLiteral letter? rest).map fun parts => (c :: parts.1, parts.2)

/-- The quote and the backslash are escaped, and every escape is undone. -/
structure Escapes.IsReadable (escapes : Escapes) (letter? : Char → Option Char) : Prop where
  quote : escapes.lookup '"' ≠ none
  backslash : escapes.lookup '\\' ≠ none
  undone : ∀ e ∈ escapes, letter? e.2 = some e.1

theorem isReadable_tripleEscapes : Escapes.IsReadable tripleEscapes tripleLetter? where
  quote := by decide
  backslash := by decide
  undone := by decide

variable {escapes : Escapes} {letter? : Char → Option Char}

theorem Escapes.IsReadable.letter_of_lookup (he : escapes.IsReadable letter?) {c letter : Char}
    (h : escapes.lookup c = some letter) : letter? letter = some c := by
  obtain ⟨front, rest, hl, -⟩ := List.lookup_eq_some_iff.mp h
  exact he.undone (c, letter) (by simp [hl])

theorem readLiteral_cons {c : Char} (hq : c ≠ '"') (hb : c ≠ '\\') (t : Text) :
    readLiteral letter? (c :: t) =
      (readLiteral letter? t).map fun parts => (c :: parts.1, parts.2) := by
  rw [readLiteral]
  · exact hq
  · exact fun h => absurd h hb
  · exact fun _ _ h => absurd h hb

theorem readLiteral_escapeChar (he : escapes.IsReadable letter?) (c : Char) (t : Text) :
    readLiteral letter? (escapeChar escapes c ++ t) =
      (readLiteral letter? t).map fun parts => (c :: parts.1, parts.2) := by
  rw [escapeChar]
  split
  · next letter h => simp [readLiteral, he.letter_of_lookup h]
  · next h =>
    have hq : c ≠ '"' := fun hc => he.quote (hc ▸ h)
    have hb : c ≠ '\\' := fun hc => he.backslash (hc ▸ h)
    exact readLiteral_cons hq hb t

/-- A literal is read up to its closing quote. -/
theorem readLiteral_escape (he : escapes.IsReadable letter?) (t rest : Text) :
    readLiteral letter? (escape escapes t ++ '"' :: rest) = some (t, rest) := by
  induction t with
  | nil => simp [escape, readLiteral]
  | cons c t ih =>
    have hc : escape escapes (c :: t) = escapeChar escapes c ++ escape escapes t := rfl
    rw [hc, List.append_assoc, readLiteral_escapeChar he, ih]
    rfl

/-- Two literals with something behind them are the same only if both parts are. -/
theorem quote_append_inj (he : escapes.IsReadable letter?) {a b r s : Text}
    (h : quote escapes a ++ r = quote escapes b ++ s) : a = b ∧ r = s := by
  have hc : escape escapes a ++ '"' :: r = escape escapes b ++ '"' :: s := by
    simpa [quote] using h
  have hr := congrArg (readLiteral letter?) hc
  rw [readLiteral_escape he, readLiteral_escape he] at hr
  cases hr
  exact ⟨rfl, rfl⟩

end WikiAxioms.Output
