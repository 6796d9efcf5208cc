import WikiAxioms.Text.Basic

/-!
# Tokens of a declaration

Nothing is skipped: each token has a source form, and the source forms of the tokens of a text, put
together, are the text (`sources_tokens`). Offsets are therefore lengths of source forms.
-/

namespace WikiAxioms.Markup

inductive Token where
  /-- Two opening braces. -/
  | opening
  /-- Two closing braces. -/
  | closing
  | loneOpening
  | loneClosing
  | pipe
  | equals
  | linkOpening
  | linkClosing
  /-- What stands between a pair of nowiki markers. -/
  | nowiki (body : Text)
  /-- A bracket, an angle or a nowiki marker that opens nothing. -/
  | char (source : Text)
  /-- A longest run of characters without a meaning of their own. -/
  | text (source : Text)
  deriving DecidableEq

/-- The letters of a nowiki marker after its first angle. -/
def nowikiName : Text := ['n', 'o', 'w', 'i', 'k', 'i', '>']

def nowikiOpening : Text := '<' :: nowikiName

def nowikiClosing : Text := '<' :: '/' :: nowikiName

/-- Characters that no run of plain text holds. -/
def isSpecial (c : Char) : Bool :=
  c == '\x7b' || c == '\x7d' || c == '|' || c == '=' || c == '[' || c == ']' || c == '<'

namespace Token

/-- The characters that a token was read from. -/
def source : Token → Text
  | opening => "\x7b\x7b"
  | closing => "\x7d\x7d"
  | loneOpening => "\x7b"
  | loneClosing => "\x7d"
  | pipe => "|"
  | equals => "="
  | linkOpening => "[["
  | linkClosing => "]]"
  | nowiki body => nowikiOpening ++ body ++ nowikiClosing
  | char source => source
  | text source => source

/-- What a token contributes to the text of a field: nowiki markers count for nothing. -/
def content : Token → Text
  | nowiki body => body
  | t => t.source

/-- The token in the words of an error message. -/
def describe : Token → Text
  | opening => "'\x7b\x7b'"
  | closing => "'\x7d\x7d'"
  | loneOpening => "unmatched '\x7b'"
  | loneClosing => "unmatched '\x7d'"
  | pipe => "'|'"
  | equals => "'='"
  | linkOpening => "'[['"
  | linkClosing => "']]'"
  | nowiki body => nowikiOpening ++ body ++ nowikiClosing
  | char source => "'" ++ source ++ "'"
  | text source => "text \"" ++ source ++ "\""

/-- The number of bytes that a token was read from. -/
def size (t : Token) : Nat := t.source.byteLength

end Token

/-- The first token of a text that starts with an angle, and what follows it. A nowiki marker
without a closing one later on is a token by itself. -/
def angleToken (t : Text) : Token × Text :=
  match Text.after? t nowikiName with
  | none => (.char "<", t)
  | some inner =>
    match Text.cutAt inner nowikiClosing with
    | some (body, rest) => (.nowiki body, rest)
    | none => (.char nowikiOpening, inner)

/-- The token for a character that means more when it stands twice, and what follows it. -/
def pairedToken (c : Char) (two one : Token) : Text → Token × Text
  | [] => (one, [])
  | d :: t => if d = c then (two, t) else (one, d :: t)

/-- The first token of the text `c :: t`, the longest possible one, and what follows it. -/
def firstToken (c : Char) (t : Text) : Token × Text :=
  if c = '\x7b' then pairedToken c .opening .loneOpening t
  else if c = '\x7d' then pairedToken c .closing .loneClosing t
  else if c = '|' then (.pipe, t)
  else if c = '=' then (.equals, t)
  else if c = '[' then pairedToken c .linkOpening (.char "[") t
  else if c = ']' then pairedToken c .linkClosing (.char "]") t
  else if c = '<' then angleToken t
  else (.text (c :: t.takeWhile (!isSpecial ·)), t.dropWhile (!isSpecial ·))

theorem pairedToken_source {c : Char} {two one : Token} (h₂ : two.source = [c, c])
    (h₁ : one.source = [c]) (t : Text) :
    (pairedToken c two one t).1.source ++ (pairedToken c two one t).2 = c :: t := by
  cases t with
  | nil => simp [pairedToken, h₁]
  | cons d t =>
    by_cases h : d = c
    · simp [pairedToken, h, h₂]
    · simp [pairedToken, h, h₁]

theorem pairedToken_length (c : Char) (two one : Token) (t : Text) :
    (pairedToken c two one t).2.length ≤ t.length := by
  cases t with
  | nil => exact Nat.le_refl _
  | cons d t => by_cases h : d = c <;> simp [pairedToken, h]

theorem angleToken_source (t : Text) : (angleToken t).1.source ++ (angleToken t).2 = '<' :: t := by
  unfold angleToken
  split
  · rfl
  · next inner h =>
    have ht := Text.eq_of_after? h
    split
    · next body rest hc =>
      rw [ht, Text.eq_of_cutAt hc]
      simp [Token.source, nowikiOpening]
    · rw [ht]; rfl

/-- The first token loses nothing. -/
theorem firstToken_source (c : Char) (t : Text) :
    (firstToken c t).1.source ++ (firstToken c t).2 = c :: t := by
  unfold firstToken
  split
  · next h => subst h; exact pairedToken_source rfl rfl t
  split
  · next h => subst h; exact pairedToken_source rfl rfl t
  split
  · next h => subst h; rfl
  split
  · next h => subst h; rfl
  split
  · next h => subst h; exact pairedToken_source rfl rfl t
  split
  · next h => subst h; exact pairedToken_source rfl rfl t
  split
  · next h => subst h; exact angleToken_source t
  · simp [Token.source]

theorem angleToken_length (t : Text) : (angleToken t).2.length ≤ t.length := by
  have h := congrArg List.length (angleToken_source t)
  have hs : 1 ≤ (angleToken t).1.source.length := by
    unfold angleToken
    split
    · exact Nat.le_refl _
    · split <;> simp [Token.source, nowikiOpening, nowikiName]
  simp only [List.length_append, List.length_cons] at h
  omega

/-- What follows the first token is shorter than the text. -/
theorem firstToken_length (c : Char) (t : Text) : (firstToken c t).2.length ≤ t.length := by
  unfold firstToken
  repeat' split
  all_goals simp only [pairedToken_length, angleToken_length, Text.dropWhile_length_le, Nat.le_refl]

/-- All tokens of a text, in order. -/
def tokens : Text → List Token
  | [] => []
  | c :: t => (firstToken c t).1 :: tokens (firstToken c t).2
termination_by t => t.length
decreasing_by exact Nat.lt_succ_of_le (firstToken_length c t)

def sources (ts : List Token) : Text := ts.flatMap Token.source

theorem sources_append (ts us : List Token) : sources (ts ++ us) = sources ts ++ sources us :=
  List.flatMap_append

/-- Tokens lose nothing of the text. -/
theorem sources_tokens (t : Text) : sources (tokens t) = t := by
  fun_induction tokens t with
  | case1 => rfl
  | case2 c t ih =>
    rw [sources, List.flatMap_cons, ← sources, ih]
    exact firstToken_source c t

/-- The number of bytes that a list of tokens was read from. -/
def sizeOfTokens (ts : List Token) : Nat := total (ts.map Token.size)

/-- Each token with the byte offsets of its two ends, the first token starting at `start`. -/
def place (start : Nat) : List Token → List (Token × Nat × Nat)
  | [] => []
  | t :: ts => (t, start, start + t.size) :: place (start + t.size) ts

end WikiAxioms.Markup
