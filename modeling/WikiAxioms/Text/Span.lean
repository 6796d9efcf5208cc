import WikiAxioms.Text.Basic

/-!
# Ranges of a text

Where something stands in a text, in bytes from its start.
-/

namespace WikiAxioms

/-- A range of byte offsets, the last one excluded. -/
structure Span where
  first : Nat
  last : Nat
  deriving DecidableEq

/-- The range between two places of a text of `size` bytes, each given by what follows it. -/
def Span.between (size : Nat) (start stop : Text) : Span :=
  ⟨size - start.byteLength, size - stop.byteLength⟩

end WikiAxioms
