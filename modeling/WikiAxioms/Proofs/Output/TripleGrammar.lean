import WikiAxioms.Pattern.Spacing
import WikiAxioms.Proofs.Text.Search
import WikiAxioms.Text.Ranges

/-!
# The grammar of N-Triples

Which lines are statements, and what each of them says, production by production and without
reference to how lines are written here. Between the parts of a statement stands one blank. A line
says one thing at most (`IsStatement.unique`), and a statement is always on one line.
-/

namespace WikiAxioms.Output

/-- What a part of a statement names. -/
inductive Resource where
  | iri (iri : Text)
  | blank (label : Text)
  | plain (content : Text)
  | typed (content datatype : Text)
  | tagged (content language : Text)
  deriving DecidableEq

/-- What a statement says. -/
@[ext] structure Triple where
  subject : Resource
  predicate : Text
  object : Resource
  deriving DecidableEq

namespace Grammar

/-! ## Productions -/

/-- Letters behind a backslash with the characters that they stand for. -/
def letterEscapes : List (Char × Char) :=
  [('t', '\t'), ('b', '\x08'), ('n', '\n'), ('r', '\r'), ('f', '\x0c'), ('"', '"'),
    ('\x27', '\x27'), ('\\', '\\')]

/-- Letters that hexadecimal digits follow, with the number of those. -/
def numericEscapes : List (Char × Nat) := [('u', 4), ('U', 8)]

inductive IsLetterEscape : Text → Char → Prop
  | mk {letter c : Char} : (letter, c) ∈ letterEscapes → IsLetterEscape ['\\', letter] c

inductive IsNumericEscape : Text → Char → Prop
  | mk {mark c : Char} {digits : Text} : (mark, digits.length) ∈ numericEscapes →
      (∀ d ∈ digits, Pattern.isHexDigit d = true) → Pattern.numeral 16 digits = c.toNat →
      IsNumericEscape ('\\' :: mark :: digits) c

/-- The second text in characters for themselves and escapes. -/
inductive Spells (own : Char → Bool) (escape : Text → Char → Prop) : Text → Text → Prop
  | nil : Spells own escape [] []
  | own {c : Char} {s t : Text} : own c = true → Spells own escape s t →
      Spells own escape (c :: s) (c :: t)
  | escape {e s t : Text} {c : Char} : escape e c → Spells own escape s t →
      Spells own escape (e ++ s) (c :: t)

/-- Characters that stand for themselves in an IRI. -/
def isIriChar (c : Char) : Bool :=
  decide (0x20 < c.toNat) && c ∉ ['<', '>', '"', '\x7b', '\x7d', '|', '^', '`', '\\']

/-- A text that may stand in an IRI as it is. -/
def IsIriText (t : Text) : Prop := ∀ ch ∈ t, isIriChar ch = true

instance (t : Text) : Decidable (IsIriText t) :=
  decidable_of_iff (t.all isIriChar = true) List.all_eq_true

/-- Characters that stand for themselves in a quotation. -/
def isQuotedChar (c : Char) : Bool := c ∉ ['"', '\\', '\n', '\r']

inductive IsIri : Text → Text → Prop
  | mk {body iri : Text} : Spells isIriChar IsNumericEscape body iri →
      IsIri ('<' :: body ++ ['>']) iri

inductive IsQuotation : Text → Text → Prop
  | mk {body content : Text} :
      Spells isQuotedChar (fun e c => IsLetterEscape e c ∨ IsNumericEscape e c) body content →
      IsQuotation ('"' :: body ++ ['"']) content

/-- Letters of names. -/
def nameLetters : CodePointRanges :=
  [(0x41, 0x5A), (0x61, 0x7A), (0xC0, 0xD6), (0xD8, 0xF6), (0xF8, 0x2FF), (0x370, 0x37D),
    (0x37F, 0x1FFF), (0x200C, 0x200D), (0x2070, 0x218F), (0x2C00, 0x2FEF), (0x3001, 0xD7FF),
    (0xF900, 0xFDCF), (0xFDF0, 0xFFFD), (0x10000, 0xEFFFF)]

def isLabelStart (c : Char) : Bool := nameLetters.contains c || c == '_' || c == ':' || c.isDigit

def isLabelChar (c : Char) : Bool :=
  isLabelStart c || c == '-' ||
    CodePointRanges.contains [(0xB7, 0xB7), (0x300, 0x36F), (0x203F, 0x2040)] c

/-- A label may have points, but not at its ends. -/
structure IsLabel (label : Text) : Prop where
  start : ∃ c, label.head? = some c ∧ isLabelStart c = true
  inner : ∀ c ∈ label, isLabelChar c = true ∨ c = '.'
  last : label.getLast? ≠ some '.'

/-- Letters, then words of letters and digits with a hyphen before each. -/
inductive IsLanguage : Text → Prop
  | letters {t : Text} : t ≠ [] → (∀ c ∈ t, c.isAlpha = true) → IsLanguage t
  | part {t w : Text} : IsLanguage t → w ≠ [] → (∀ c ∈ w, c.isAlphanum = true) →
      IsLanguage (t ++ '-' :: w)

inductive IsSubject : Text → Resource → Prop
  | iri {t iri : Text} : IsIri t iri → IsSubject t (.iri iri)
  | blank {label : Text} : IsLabel label → IsSubject ('_' :: ':' :: label) (.blank label)

inductive IsLiteral : Text → Resource → Prop
  | plain {q content : Text} : IsQuotation q content → IsLiteral q (.plain content)
  | typed {q content t datatype : Text} : IsQuotation q content → IsIri t datatype →
      IsLiteral (q ++ '^' :: '^' :: t) (.typed content datatype)
  | tagged {q content language : Text} : IsQuotation q content → IsLanguage language →
      IsLiteral (q ++ '@' :: language) (.tagged content language)

inductive IsObject : Text → Resource → Prop
  | subject {t : Text} {r : Resource} : IsSubject t r → IsObject t r
  | literal {t : Text} {r : Resource} : IsLiteral t r → IsObject t r

/-- The line is a statement that says the triple. -/
inductive IsStatement : Text → Triple → Prop
  | mk {s p o : Text} {x : Triple} : IsSubject s x.subject → IsIri p x.predicate →
      IsObject o x.object → IsStatement (s ++ ' ' :: p ++ ' ' :: o ++ [' ', '.']) x

/-! ## Spellings -/

/-- A code in which what comes next is known from its first characters, up to the character
`close`. -/
structure IsCode (close : Char) (own : Char → Bool) (escape : Text → Char → Prop) : Prop where
  own_close : own close = false
  own_backslash : own '\\' = false
  close_ne : close ≠ '\\'
  head {e : Text} {c : Char} : escape e c → ∃ tail, e = '\\' :: tail
  inj {e f r s : Text} {c d : Char} : escape e c → escape f d → e ++ r = f ++ s → c = d ∧ r = s

theorem IsLetterEscape.inj {e f r s : Text} {c d : Char} (he : IsLetterEscape e c)
    (hf : IsLetterEscape f d) (h : e ++ r = f ++ s) : c = d ∧ r = s := by
  obtain @⟨l, _, hc⟩ := he
  obtain @⟨m, _, hd⟩ := hf
  obtain ⟨rfl, hr⟩ := List.cons.inj (List.cons.inj h).2
  have hall : ∀ p ∈ letterEscapes, ∀ q ∈ letterEscapes, p.1 = q.1 → p.2 = q.2 := by decide
  exact ⟨hall _ hc _ hd rfl, hr⟩

theorem IsNumericEscape.inj {e f r s : Text} {c d : Char} (he : IsNumericEscape e c)
    (hf : IsNumericEscape f d) (h : e ++ r = f ++ s) : c = d ∧ r = s := by
  obtain ⟨hm, -, hc⟩ := he
  obtain ⟨hm', -, hd⟩ := hf
  obtain ⟨rfl, ht⟩ := List.cons.inj (List.cons.inj h).2
  have hall : ∀ p ∈ numericEscapes, ∀ q ∈ numericEscapes, p.1 = q.1 → p.2 = q.2 := by decide
  -- the mark tells how many digits there are
  obtain ⟨rfl, hr⟩ := List.append_inj ht (hall _ hm _ hm' rfl)
  exact ⟨Char.toNat_inj.mp (hc.symm.trans hd), hr⟩

theorem IsLetterEscape.ne_append {e f r s : Text} {c d : Char} (he : IsLetterEscape e c)
    (hf : IsNumericEscape f d) : e ++ r ≠ f ++ s := by
  intro h
  obtain ⟨hc⟩ := he
  obtain ⟨hm, -, -⟩ := hf
  obtain ⟨rfl, -⟩ := List.cons.inj (List.cons.inj h).2
  have hall : ∀ p ∈ letterEscapes, ∀ q ∈ numericEscapes, p.1 ≠ q.1 := by decide
  exact hall _ hc _ hm rfl

theorem isCode_iri : IsCode '>' isIriChar IsNumericEscape where
  own_close := by decide
  own_backslash := by decide
  close_ne := by decide
  head := by rintro _ _ ⟨⟩; exact ⟨_, rfl⟩
  inj := IsNumericEscape.inj

theorem isCode_quotation :
    IsCode '"' isQuotedChar fun e c => IsLetterEscape e c ∨ IsNumericEscape e c where
  own_close := by decide
  own_backslash := by decide
  close_ne := by decide
  head := by rintro _ _ (⟨⟨⟩⟩ | ⟨⟨⟩⟩) <;> exact ⟨_, rfl⟩
  inj := by
    rintro e f r s c d (he | he) (hf | hf) h
    · exact he.inj hf h
    · exact absurd h (he.ne_append hf)
    · exact absurd h.symm (hf.ne_append he)
    · exact he.inj hf h

/-- What is spelled ends where the closing character stands first, and is known from there. -/
theorem Spells.append_inj {close : Char} {own : Char → Bool} {escape : Text → Char → Prop}
    (hcode : IsCode close own escape) {a b s t r r' : Text} (ha : Spells own escape a s)
    (hb : Spells own escape b t) (h : a ++ close :: r = b ++ close :: r') : s = t ∧ r = r' := by
  induction ha generalizing b t with
  | nil =>
    cases hb with
    | nil => exact ⟨rfl, (List.cons.inj h).2⟩
    | own hc _ =>
      obtain ⟨rfl, -⟩ := List.cons.inj h
      rw [hcode.own_close] at hc
      cases hc
    | escape he _ =>
      obtain ⟨tail, rfl⟩ := hcode.head he
      exact absurd (List.cons.inj h).1 hcode.close_ne
  | @own c a s hc _ ih =>
    cases hb with
    | nil =>
      obtain ⟨rfl, -⟩ := List.cons.inj h
      rw [hcode.own_close] at hc
      cases hc
    | own _ hb =>
      obtain ⟨rfl, ht⟩ := List.cons.inj h
      obtain ⟨rfl, hr⟩ := ih hb ht
      exact ⟨rfl, hr⟩
    | escape he _ =>
      obtain ⟨tail, rfl⟩ := hcode.head he
      obtain ⟨rfl, -⟩ := List.cons.inj h
      rw [hcode.own_backslash] at hc
      cases hc
  | @escape e a s c he _ ih =>
    obtain ⟨tail, htail⟩ := hcode.head he
    cases hb with
    | nil =>
      subst htail
      exact absurd (List.cons.inj h).1.symm hcode.close_ne
    | own hc _ =>
      subst htail
      obtain ⟨rfl, -⟩ := List.cons.inj h
      rw [hcode.own_backslash] at hc
      cases hc
    | escape hf hb =>
      rw [List.append_assoc, List.append_assoc] at h
      obtain ⟨rfl, ht⟩ := hcode.inj he hf h
      obtain ⟨rfl, hr⟩ := ih hb ht
      exact ⟨rfl, hr⟩

theorem IsIri.append_inj {a b iri iri' r r' : Text} (ha : IsIri a iri) (hb : IsIri b iri')
    (h : a ++ r = b ++ r') : iri = iri' ∧ r = r' := by
  obtain ⟨ha⟩ := ha
  obtain ⟨hb⟩ := hb
  exact ha.append_inj isCode_iri hb (by simpa using h)

theorem IsQuotation.append_inj {a b content content' r r' : Text} (ha : IsQuotation a content)
    (hb : IsQuotation b content') (h : a ++ r = b ++ r') : content = content' ∧ r = r' := by
  obtain ⟨ha⟩ := ha
  obtain ⟨hb⟩ := hb
  exact ha.append_inj isCode_quotation hb (by simpa using h)

/-! ## A line says one thing -/

theorem IsLabel.not_mem {label : Text} (h : IsLabel label) {c : Char}
    (hc : isLabelChar c = false) (hp : c ≠ '.') : c ∉ label := by
  intro hm
  rcases h.inner c hm with h | h
  · rw [hc] at h
    cases h
  · exact hp h

/-- A subject is told from the blank behind it. -/
theorem IsSubject.append_inj {a b r r' : Text} {x y : Resource} (ha : IsSubject a x)
    (hb : IsSubject b y) (h : a ++ ' ' :: r = b ++ ' ' :: r') : x = y ∧ r = r' := by
  cases ha with
  | iri ha =>
    cases hb with
    | iri hb =>
      obtain ⟨rfl, hr⟩ := ha.append_inj hb h
      exact ⟨rfl, (List.cons.inj hr).2⟩
    | blank _ =>
      obtain ⟨-⟩ := ha
      exact absurd (List.cons.inj h).1 (by decide)
  | blank ha =>
    cases hb with
    | iri hb =>
      obtain ⟨-⟩ := hb
      exact absurd (List.cons.inj h).1 (by decide)
    | blank hb =>
      have hs : isLabelChar ' ' = false := by decide
      obtain ⟨rfl, hr⟩ := Text.append_cons_inj (ha.not_mem hs (by decide))
        (hb.not_mem hs (by decide)) (List.cons.inj (List.cons.inj h).2).2
      exact ⟨rfl, hr⟩

theorem IsSubject.unique {a : Text} {x y : Resource} (ha : IsSubject a x) (hb : IsSubject a y) :
    x = y :=
  (ha.append_inj (r := []) hb rfl).1

/-- Behind a quotation nothing follows, or two carets, or an at sign. -/
theorem IsLiteral.unique {a : Text} {x y : Resource} (ha : IsLiteral a x) (hb : IsLiteral a y) :
    x = y := by
  suffices h : ∀ {b : Text}, IsLiteral b y → a = b → x = y from h hb rfl
  clear hb
  intro b hb h
  cases ha with
  | plain ha =>
    cases hb with
    | plain hb =>
      obtain ⟨rfl, -⟩ := ha.append_inj hb (congrArg (· ++ []) h)
      rfl
    | typed hb _ => cases (ha.append_inj hb ((List.append_nil _).trans h)).2
    | tagged hb _ => cases (ha.append_inj hb ((List.append_nil _).trans h)).2
  | typed ha hi =>
    cases hb with
    | plain hb => cases (hb.append_inj ha ((List.append_nil _).trans h.symm)).2
    | typed hb hj =>
      obtain ⟨rfl, ht⟩ := ha.append_inj hb h
      have ht := (List.cons.inj (List.cons.inj ht).2).2
      obtain ⟨rfl, -⟩ := hi.append_inj hj (congrArg (· ++ []) ht)
      rfl
    | tagged hb _ => cases (ha.append_inj hb h).2
  | tagged ha _ =>
    cases hb with
    | plain hb => cases (hb.append_inj ha ((List.append_nil _).trans h.symm)).2
    | typed hb _ => cases (ha.append_inj hb h).2
    | tagged hb _ =>
      obtain ⟨rfl, ht⟩ := ha.append_inj hb h
      cases ht
      rfl

theorem IsLiteral.head? {a : Text} {x : Resource} (h : IsLiteral a x) : a.head? = some '"' := by
  cases h with
  | plain h | typed h _ | tagged h _ =>
    obtain ⟨-⟩ := h
    rfl

theorem IsSubject.head?_ne {a : Text} {x : Resource} (h : IsSubject a x) :
    a.head? ≠ some '"' := by
  cases h with
  | iri h =>
    obtain ⟨-⟩ := h
    simp
  | blank _ => simp

theorem IsObject.unique {a : Text} {x y : Resource} (ha : IsObject a x) (hb : IsObject a y) :
    x = y := by
  cases ha with
  | subject ha =>
    cases hb with
    | subject hb => exact ha.unique hb
    | literal hb => exact absurd hb.head? ha.head?_ne
  | literal ha =>
    cases hb with
    | subject hb => exact absurd ha.head? hb.head?_ne
    | literal hb => exact ha.unique hb

/-- A line says one thing at most. -/
theorem IsStatement.unique {line : Text} {x y : Triple} (hx : IsStatement line x)
    (hy : IsStatement line y) : x = y := by
  suffices h : ∀ {line' : Text}, IsStatement line' y → line = line' → x = y from h hy rfl
  clear hy
  intro line' hy h
  obtain @⟨s, p, o, _, hs, hp, ho⟩ := hx
  obtain @⟨s', p', o', _, hs', hp', ho'⟩ := hy
  have hc : s ++ ' ' :: (p ++ ' ' :: (o ++ [' ', '.'])) =
      s' ++ ' ' :: (p' ++ ' ' :: (o' ++ [' ', '.'])) := by
    simpa using h
  obtain ⟨hsubject, hc⟩ := hs.append_inj hs' hc
  obtain ⟨hpredicate, hc⟩ := hp.append_inj hp' hc
  obtain rfl := List.append_cancel_right (List.cons.inj hc).2
  exact Triple.ext hsubject hpredicate (ho.unique ho')

/-! ## A statement is on one line -/

/-- Characters that end no line. -/
def IsInline (t : Text) : Prop := ∀ c ∈ t, c ≠ '\n' ∧ c ≠ '\r'

instance (t : Text) : Decidable (IsInline t) :=
  decidable_of_iff ((t.all fun c => c != '\n' && c != '\r') = true) (by simp [IsInline])

theorem isInline_append {s t : Text} : IsInline (s ++ t) ↔ IsInline s ∧ IsInline t :=
  List.forall_mem_append

theorem isInline_cons {c : Char} {t : Text} :
    IsInline (c :: t) ↔ (c ≠ '\n' ∧ c ≠ '\r') ∧ IsInline t :=
  List.forall_mem_cons

theorem isInline_of_all {p : Char → Bool} {t : Text} (hn : p '\n' = false) (hr : p '\r' = false)
    (h : ∀ c ∈ t, p c = true) : IsInline t := by
  intro c hc
  constructor
  · rintro rfl
    rw [h _ hc] at hn
    cases hn
  · rintro rfl
    rw [h _ hc] at hr
    cases hr

theorem IsLetterEscape.isInline {e : Text} {c : Char} (h : IsLetterEscape e c) : IsInline e := by
  obtain @⟨letter, _, hm⟩ := h
  have hall : ∀ p ∈ letterEscapes, p.1 ≠ '\n' ∧ p.1 ≠ '\r' := by decide
  simpa [isInline_cons, IsInline] using hall _ hm

theorem IsNumericEscape.isInline {e : Text} {c : Char} (h : IsNumericEscape e c) :
    IsInline e := by
  obtain @⟨mark, _, digits, hm, hd, -⟩ := h
  have hall : ∀ p ∈ numericEscapes, p.1 ≠ '\n' ∧ p.1 ≠ '\r' := by decide
  rw [isInline_cons, isInline_cons]
  exact ⟨by decide, hall _ hm, isInline_of_all (by decide) (by decide) hd⟩

theorem Spells.isInline {own : Char → Bool} {escape : Text → Char → Prop} (hn : own '\n' = false)
    (hr : own '\r' = false) (he : ∀ e c, escape e c → IsInline e) {s t : Text}
    (h : Spells own escape s t) : IsInline s := by
  induction h with
  | nil => simp [IsInline]
  | @own c s t hc _ ih =>
    have h : IsInline [c] := isInline_of_all hn hr (by simpa using hc)
    exact isInline_append.mpr ⟨h, ih⟩
  | escape hc _ ih => exact isInline_append.mpr ⟨he _ _ hc, ih⟩

theorem IsIri.isInline {t iri : Text} (h : IsIri t iri) : IsInline t := by
  obtain ⟨h⟩ := h
  have hb := h.isInline (by decide) (by decide) fun _ _ => IsNumericEscape.isInline
  rw [isInline_append, isInline_cons]
  exact ⟨⟨by decide, hb⟩, by simp [IsInline]⟩

theorem IsQuotation.isInline {t content : Text} (h : IsQuotation t content) : IsInline t := by
  obtain ⟨h⟩ := h
  have hb := h.isInline (by decide) (by decide) fun _ _ he =>
    he.elim IsLetterEscape.isInline IsNumericEscape.isInline
  rw [isInline_append, isInline_cons]
  exact ⟨⟨by decide, hb⟩, by simp [IsInline]⟩

theorem IsLabel.isInline {label : Text} (h : IsLabel label) : IsInline label := by
  refine isInline_of_all (p := fun c => isLabelChar c || c == '.') (by decide) (by decide) ?_
  simpa using h.inner

theorem IsLanguage.isInline {t : Text} (h : IsLanguage t) : IsInline t := by
  induction h with
  | letters _ h => exact isInline_of_all (by decide) (by decide) h
  | part _ _ h ih =>
    rw [isInline_append, isInline_cons]
    exact ⟨ih, by decide, isInline_of_all (by decide) (by decide) h⟩

theorem IsSubject.isInline {t : Text} {x : Resource} (h : IsSubject t x) : IsInline t := by
  cases h with
  | iri h => exact h.isInline
  | blank h => simpa [isInline_cons] using h.isInline

theorem IsObject.isInline {t : Text} {x : Resource} (h : IsObject t x) : IsInline t := by
  cases h with
  | subject h => exact h.isInline
  | literal h =>
    cases h with
    | plain h => exact h.isInline
    | typed h hi => simpa [isInline_append, isInline_cons] using ⟨h.isInline, hi.isInline⟩
    | tagged h hl => simpa [isInline_append, isInline_cons] using ⟨h.isInline, hl.isInline⟩

/-- No statement has a line break in it. -/
theorem IsStatement.isInline {line : Text} {x : Triple} (h : IsStatement line x) :
    IsInline line := by
  obtain ⟨hs, hp, ho⟩ := h
  have hend : IsInline [' ', '.'] := by simp [IsInline]
  simpa [isInline_append, isInline_cons, hend] using
    ⟨hs.isInline, hp.isInline, ho.isInline⟩

end Grammar

end WikiAxioms.Output
