import WikiAxioms.Output.Functional
import WikiAxioms.Proofs.Output.Literal

/-!
# Terms can be read back

A term is known from its text, whatever follows it. Names and functors are words, which go on until
the next delimiter; after a word a parenthesis opens arguments, and anything else ends the term.
-/

namespace WikiAxioms.Output

/-- White space, parentheses and quotes, which no word holds. -/
def isDelimiter (c : Char) : Bool := isSpace c || c == '(' || c == ')' || c == '"'

/-- A text that is read as one word. -/
def IsWord (t : Text) : Prop := t ≠ [] ∧ ∀ c ∈ t, isDelimiter c = false

instance (t : Text) : Decidable (IsWord t) :=
  decidable_of_iff (t ≠ [] ∧ t.all (!isDelimiter ·) = true) (by simp [IsWord])

/-- Nothing, or something that starts with a delimiter. -/
def IsStop (r : Text) : Prop := ∀ c, r.head? = some c → isDelimiter c = true

/-- What may follow a term: no arguments of it. -/
def IsRest (r : Text) : Prop := IsStop r ∧ r.head? ≠ some '('

/-- A term all names in which are words. -/
inductive Term.IsReadable : Term → Prop
  | name {text : Text} : IsWord text → IsReadable (.name text)
  | plain (content : Text) : IsReadable (.literal content none)
  | typed (content : Text) {datatype : Text} :
      IsWord datatype → IsReadable (.literal content (some datatype))
  | apply {functor : Text} {arguments : List Term} :
      IsWord functor → (∀ t ∈ arguments, IsReadable t) → IsReadable (.apply functor arguments)

theorem isReadable_lineEscapes : Escapes.IsReadable lineEscapes lineLetter? where
  quote := by decide
  backslash := by decide
  undone := by decide

/-! ## Words -/

section Words

variable {a b r s : Text}

theorem isStop_cons {c : Char} (hc : isDelimiter c = true) (r : Text) : IsStop (c :: r) := by
  rintro d ⟨⟩
  exact hc

theorem takeWhile_word (ha : ∀ c ∈ a, isDelimiter c = false) (hr : IsStop r) :
    (a ++ r).takeWhile (!isDelimiter ·) = a := by
  rw [List.takeWhile_append_of_pos (by simpa using ha)]
  cases r with
  | nil => simp
  | cons c r => simp [hr c rfl]

/-- A word is told from what follows it. -/
theorem word_append_inj (ha : ∀ c ∈ a, isDelimiter c = false)
    (hb : ∀ c ∈ b, isDelimiter c = false) (hr : IsStop r) (hs : IsStop s)
    (h : a ++ r = b ++ s) : a = b ∧ r = s := by
  have hab : a = b := by
    rw [← takeWhile_word ha hr, h, takeWhile_word hb hs]
  subst hab
  exact ⟨rfl, List.append_cancel_left h⟩

/-- A word does not start as a delimiter does. -/
theorem head?_word (ha : IsWord a) (r : Text) {c : Char} (hc : isDelimiter c = true) :
    (a ++ r).head? ≠ some c := by
  obtain ⟨hn, hw⟩ := ha
  obtain ⟨d, a, rfl⟩ := List.exists_cons_of_ne_nil hn
  intro h
  obtain rfl := Option.some.inj h
  rw [hw d List.mem_cons_self] at hc
  cases hc

end Words

/-! ## Terms -/

namespace Term

/-- Terms, each with a blank before it. -/
def spacedTexts (ts : List Term) : Text := ts.flatMap fun t => ' ' :: t.text

theorem textOfList_cons (t : Term) (ts : List Term) :
    textOfList (t :: ts) = t.text ++ spacedTexts ts := by
  induction ts generalizing t with
  | nil => simp [textOfList, spacedTexts]
  | cons u ts ih => simp [textOfList, spacedTexts, ih u]

theorem text_apply (functor : Text) (arguments : List Term) (r : Text) :
    (apply functor arguments).text ++ r =
      functor ++ '(' :: (textOfList arguments ++ ')' :: r) := by
  simp [text]

theorem text_plain (content r : Text) :
    (literal content none).text ++ r = quote lineEscapes content ++ r := by
  simp [text]

theorem text_typed (content datatype r : Text) :
    (literal content (some datatype)).text ++ r =
      quote lineEscapes content ++ '^' :: '^' :: (datatype ++ r) := by
  simp [text]

/-- Behind an argument stands another one or the closing parenthesis. -/
theorem isRest_spacedTexts (ts : List Term) (r : Text) : IsRest (spacedTexts ts ++ ')' :: r) := by
  cases ts with
  | nil => exact ⟨isStop_cons (by decide) _, by simp [spacedTexts]⟩
  | cons t ts => exact ⟨isStop_cons (by decide) _, by simp [spacedTexts]⟩

/-- A term does not start with the parenthesis that would close its list. -/
theorem IsReadable.head?_ne {t : Term} (ht : t.IsReadable) (r : Text) :
    (t.text ++ r).head? ≠ some ')' := by
  cases ht with
  | name hw =>
    rw [text]
    exact head?_word hw r (by decide)
  | plain content => rw [text_plain]; simp [quote]
  | typed content _ => rw [text_typed]; simp [quote]
  | apply hf _ =>
    rw [text_apply]
    exact head?_word hf _ (by decide)

/-- The text of `t` is told from what may follow it. -/
def IsToldApart (t : Term) : Prop :=
  ∀ {u : Term} {r s : Text}, u.IsReadable → IsRest r → IsRest s → t.text ++ r = u.text ++ s →
    t = u ∧ r = s

theorem spacedTexts_inj {ts us : List Term} (ht : ∀ t ∈ ts, t.IsToldApart)
    (hu : ∀ u ∈ us, u.IsReadable) {r s : Text}
    (h : spacedTexts ts ++ ')' :: r = spacedTexts us ++ ')' :: s) : ts = us ∧ r = s := by
  induction ts generalizing us with
  | nil =>
    cases us with
    | nil => exact ⟨rfl, (List.cons.inj h).2⟩
    | cons u us => exact absurd (List.cons.inj h).1 (by decide)
  | cons t ts ih =>
    cases us with
    | nil => exact absurd (List.cons.inj h).1 (by decide)
    | cons u us =>
      rw [List.forall_mem_cons] at ht hu
      have hc : t.text ++ (spacedTexts ts ++ ')' :: r) =
          u.text ++ (spacedTexts us ++ ')' :: s) := by
        simpa [spacedTexts] using h
      obtain ⟨rfl, hr⟩ := ht.1 hu.1 (isRest_spacedTexts ts r) (isRest_spacedTexts us s) hc
      obtain ⟨rfl, hrs⟩ := ih ht.2 hu.2 hr
      exact ⟨rfl, hrs⟩

/-- Arguments are told from the closing parenthesis. -/
theorem textOfList_inj {ts us : List Term} (hr : ∀ t ∈ ts, t.IsReadable)
    (ht : ∀ t ∈ ts, t.IsToldApart) (hu : ∀ u ∈ us, u.IsReadable) {r s : Text}
    (h : textOfList ts ++ ')' :: r = textOfList us ++ ')' :: s) : ts = us ∧ r = s := by
  cases ts with
  | nil =>
    cases us with
    | nil => exact ⟨rfl, (List.cons.inj h).2⟩
    | cons u us =>
      rw [textOfList_cons, List.append_assoc] at h
      exact absurd (congrArg List.head? h).symm ((hu u List.mem_cons_self).head?_ne _)
  | cons t ts =>
    cases us with
    | nil =>
      rw [textOfList_cons, List.append_assoc] at h
      exact absurd (congrArg List.head? h) ((hr t List.mem_cons_self).head?_ne _)
    | cons u us =>
      -- with a blank in front the first argument is like the others
      refine spacedTexts_inj ht hu ?_
      rw [textOfList_cons, textOfList_cons] at h
      simpa [spacedTexts] using h

theorem isToldApart_name {w : Text} (hw : IsWord w) : (name w).IsToldApart := by
  intro u r s hu hr hs h
  rw [text] at h
  cases hu with
  | name hw' =>
    rw [text] at h
    obtain ⟨rfl, hrs⟩ := word_append_inj hw.2 hw'.2 hr.1 hs.1 h
    exact ⟨rfl, hrs⟩
  | plain content =>
    rw [text_plain] at h
    exact absurd (congrArg List.head? h) (head?_word hw r (by decide))
  | typed content _ =>
    rw [text_typed] at h
    exact absurd (congrArg List.head? h) (head?_word hw r (by decide))
  | apply hf _ =>
    rw [text_apply] at h
    obtain ⟨rfl, hrs⟩ := word_append_inj hw.2 hf.2 hr.1 (isStop_cons (by decide) _) h
    exact absurd (congrArg List.head? hrs) hr.2

theorem isToldApart_plain (content : Text) : (literal content none).IsToldApart := by
  intro u r s hu hr hs h
  rw [text_plain] at h
  cases hu with
  | name hw' =>
    rw [text] at h
    exact absurd (congrArg List.head? h).symm (head?_word hw' s (by decide))
  | plain content' =>
    rw [text_plain] at h
    obtain ⟨rfl, hrs⟩ := quote_append_inj isReadable_lineEscapes h
    exact ⟨rfl, hrs⟩
  | typed content' _ =>
    rw [text_typed] at h
    obtain ⟨-, hrs⟩ := quote_append_inj isReadable_lineEscapes h
    have hd : isDelimiter '^' = true := hr.1 '^' (by rw [hrs]; rfl)
    exact absurd hd (by decide)
  | apply hf _ =>
    rw [text_apply] at h
    exact absurd (congrArg List.head? h).symm (head?_word hf _ (by decide))

theorem isToldApart_typed (content : Text) {datatype : Text} (hd : IsWord datatype) :
    (literal content (some datatype)).IsToldApart := by
  intro u r s hu hr hs h
  cases hu with
  | typed content' hd' =>
    rw [text_typed, text_typed] at h
    obtain ⟨rfl, ht⟩ := quote_append_inj isReadable_lineEscapes h
    obtain ⟨rfl, hrs⟩ :=
      word_append_inj hd.2 hd'.2 hr.1 hs.1 (List.cons.inj (List.cons.inj ht).2).2
    exact ⟨rfl, hrs⟩
  | plain content' =>
    obtain ⟨he, -⟩ := isToldApart_plain content' (.typed content hd) hs hr h.symm
    cases he
  | name hw' =>
    obtain ⟨he, -⟩ := isToldApart_name hw' (.typed content hd) hs hr h.symm
    cases he
  | apply hf _ =>
    rw [text_typed, text_apply] at h
    exact absurd (congrArg List.head? h).symm (head?_word hf _ (by decide))

theorem isToldApart_apply {functor : Text} {arguments : List Term} (hf : IsWord functor)
    (ha : ∀ t ∈ arguments, t.IsReadable) (ht : ∀ t ∈ arguments, t.IsToldApart) :
    (apply functor arguments).IsToldApart := by
  intro u r s hu hr hs h
  cases hu with
  | apply hf' ha' =>
    rw [text_apply, text_apply] at h
    obtain ⟨rfl, hl⟩ :=
      word_append_inj hf.2 hf'.2 (isStop_cons (by decide) _) (isStop_cons (by decide) _) h
    obtain ⟨rfl, hrs⟩ := textOfList_inj ha ht ha' (List.cons.inj hl).2
    exact ⟨rfl, hrs⟩
  | name hw' =>
    obtain ⟨he, -⟩ := isToldApart_name hw' (.apply hf ha) hs hr h.symm
    cases he
  | plain content' =>
    obtain ⟨he, -⟩ := isToldApart_plain content' (.apply hf ha) hs hr h.symm
    cases he
  | typed content' hd' =>
    obtain ⟨he, -⟩ := isToldApart_typed content' hd' (.apply hf ha) hs hr h.symm
    cases he

/-- Readable terms are told apart by their texts, with whatever may follow them. -/
theorem IsReadable.isToldApart {t : Term} (ht : t.IsReadable) : t.IsToldApart := by
  induction ht with
  | name hw => exact isToldApart_name hw
  | plain content => exact isToldApart_plain content
  | typed content hd => exact isToldApart_typed content hd
  | apply hf ha ih => exact isToldApart_apply hf ha ih

end Term

end WikiAxioms.Output
