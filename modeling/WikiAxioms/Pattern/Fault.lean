import WikiAxioms.Text.Basic

/-!
# Faults of a pattern

A pattern is refused for its form, for what it means, or for the size of the automaton that would
have to be built for it.
-/

namespace WikiAxioms.Pattern

inductive Fault where
  | classUnclosed
  | classRangeReversed
  | classRangeBound
  | classEscape
  | groupUnclosed
  | groupUnopened
  | lookAround
  | repetitionMissing
  | countUnclosed
  | countEmpty
  | countReversed
  | countTooLarge
  | escapeCutOff
  | escapeUnknown
  | backreference
  | flagUnknown
  | flagCutOff
  | flagRepeated
  | flagDangling
  | negationRepeated
  | nameEmpty
  | nameCharacter
  | nameCutOff
  | nameRepeated
  | hexDigit
  | hexEmpty
  | hexNoCharacter
  | boundaryCutOff
  | boundaryUnclosed
  | boundaryUnknown
  | propertyForm
  | propertyUnknown
  | propertyValueUnknown
  /-- Something that asks for all characters stands where only ASCII counts. -/
  | unicodeOff
  /-- The pattern would match bytes that are no text. -/
  | nonText
  | nesting (limit : Nat)
  | size (limit : Nat)
  deriving DecidableEq

/-- What is wrong, in words. -/
def Fault.words : Fault → Text
  | classUnclosed => "unclosed character class"
  | classRangeReversed => "invalid character class range, the start must be <= the end"
  | classRangeBound => "invalid range boundary, must be a literal"
  | classEscape => "invalid escape sequence found in character class"
  | groupUnclosed => "unclosed group"
  | groupUnopened => "unopened group"
  | lookAround => "look-around, including look-ahead and look-behind, is not supported"
  | repetitionMissing => "repetition operator missing expression"
  | countUnclosed => "unclosed counted repetition"
  | countEmpty => "repetition quantifier expects a valid decimal"
  | countReversed => "invalid repetition count range, the start must be <= the end"
  | countTooLarge => "decimal literal invalid"
  | escapeCutOff => "incomplete escape sequence, reached end of pattern prematurely"
  | escapeUnknown => "unrecognized escape sequence"
  | backreference => "backreferences are not supported"
  | flagUnknown => "unrecognized flag"
  | flagCutOff => "expected flag but got end of regex"
  | flagRepeated => "duplicate flag"
  | flagDangling => "dangling flag negation operator"
  | negationRepeated => "flag negation operator repeated"
  | nameEmpty => "empty capture group name"
  | nameCharacter => "invalid capture group character"
  | nameCutOff => "unclosed capture group name"
  | nameRepeated => "duplicate capture group name"
  | hexDigit => "invalid hexadecimal digit"
  | hexEmpty => "hexadecimal literal empty"
  | hexNoCharacter => "hexadecimal literal is not a Unicode scalar value"
  | boundaryCutOff =>
    "found either the beginning of a special word boundary or a bounded repetition on a \\b " ++
      "with an opening brace, but no closing brace"
  | boundaryUnclosed =>
    "special word boundary assertion is either unclosed or contains an invalid character"
  | boundaryUnknown =>
    "unrecognized special word boundary assertion, valid choices are: start, end, start-half " ++
      "or end-half"
  | propertyForm => "invalid Unicode character class"
  | propertyUnknown => "Unicode property not found"
  | propertyValueUnknown => "Unicode property value not found"
  | unicodeOff => "Unicode not allowed here"
  | nonText => "pattern can match invalid UTF-8"
  | nesting limit =>
    "exceed the maximum number of nested parentheses/brackets (" ++ Text.ofNat limit ++ ")"
  | size limit => "Compiled regex exceeds size limit of " ++ Text.ofNat limit ++ " bytes."

/-- The last line of the report on a pattern; a fault of size is no error of the pattern itself. -/
def Fault.message : Fault → Text
  | size limit => (size limit).words
  | fault => "error: " ++ fault.words

end WikiAxioms.Pattern
