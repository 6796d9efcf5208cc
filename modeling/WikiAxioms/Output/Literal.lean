import WikiAxioms.Text.Basic

/-!
# Quoted literals

Inside quotes some characters are written as a backslash and a letter. Which ones is a matter of
the output syntax; the backslash and the quote are always among them.
-/

namespace WikiAxioms.Output

/-- Characters that are escaped, each with the letter that stands for it. -/
abbrev Escapes := List (Char × Char)

/-- Escapes that keep a literal closed and on one line. -/
def lineEscapes : Escapes := [('\\', '\\'), ('"', '"'), ('\n', 'n'), ('\r', 'r')]

/-- Escapes of literals in triples, where tabs are escaped as well. -/
def tripleEscapes : Escapes := lineEscapes ++ [('\t', 't')]

def escapeChar (escapes : Escapes) (c : Char) : Text :=
  match escapes.lookup c with
  | some letter => ['\\', letter]
  | none => [c]

def escape (escapes : Escapes) (t : Text) : Text := t.flatMap (escapeChar escapes)

/-- A text in quotes. -/
def quote (escapes : Escapes) (t : Text) : Text := '"' :: escape escapes t ++ ['"']

end WikiAxioms.Output
