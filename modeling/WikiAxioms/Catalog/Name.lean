import WikiAxioms.Markup.Page
import WikiAxioms.Text.UpperCase

/-!
# Names of templates

The name of a template may be spelled in several ways, as titles of wiki pages may: underscores are
spaces, runs of spaces count once, the first letter has no case, and the mark of constraints may be
left out. A catalog knows names in one spelling only.
-/

namespace WikiAxioms.Catalog

open WikiAxioms.Markup

/-- White space and underscores separate the words of a name. -/
def isNameSeparator (c : Char) : Bool := c == '_' || isSpace c

/-- The words of a name with one space between them. -/
def spaced (name : Text) : Text := Text.join [' '] (Text.runs isNameSeparator name)

/-- A name without the mark of constraints, which is taken off once. -/
def unmarked (name : Text) : Text :=
  if hasConstraintMark name then Text.trimStart (name.drop constraintMark.length) else name

/-- A name with its first character in upper case. -/
def capitalized : Text → Text
  | [] => []
  | c :: t => upperCase c ++ t

/-- The spelling under which a name is looked up. -/
def normalizeName (name : Text) : Text := capitalized (unmarked (spaced name))

end WikiAxioms.Catalog
