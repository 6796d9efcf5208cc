import WikiAxioms.Markup.Token
import WikiAxioms.Text.Span

/-!
# Syntax faults

A fault says which bytes of a text are wrong, why, and what could have stood there. Its cause is a
value; the words for it are in `Cause.message`.
-/

namespace WikiAxioms.Markup

/-- What is wrong with a declaration. -/
inductive Cause where
  /-- Nothing but white space. -/
  | emptyDeclaration
  | emptyName
  | emptyKey
  /-- A token that cannot stand where it does. -/
  | unexpected (token : Token)
  | unexpectedEnd
  /-- A cause in words of the caller's own. -/
  | other (words : Text)
  deriving DecidableEq

def Cause.message : Cause → Text
  | .emptyDeclaration => "empty declaration"
  | .emptyName => "template name is empty"
  | .emptyKey => "parameter with an empty key"
  | .unexpected .opening => "nested templates are not supported"
  | .unexpected .loneOpening => "unmatched brace"
  | .unexpected .loneClosing => "unmatched brace"
  | .unexpected token => "unexpected " ++ token.describe
  | .unexpectedEnd => "unexpected end of input"
  | .other words => words

structure SyntaxFault where
  span : Span
  /-- The text under the span; empty if the span does not fit the text. -/
  fragment : Text
  cause : Cause
  expected : List Text
  deriving DecidableEq

namespace SyntaxFault

def ofSpan (source : Text) (span : Span) (cause : Cause) (expected : List Text) : SyntaxFault :=
  ⟨span, (source.slice? span.first span.last).getD [], cause, expected⟩

def detail (f : SyntaxFault) : Text := f.cause.message

def message (f : SyntaxFault) : Text :=
  "syntax error at " ++ .ofNat f.span.first ++ ".." ++ .ofNat f.span.last ++ " near \"" ++
    f.fragment ++ "\": " ++ f.detail

end SyntaxFault

end WikiAxioms.Markup
