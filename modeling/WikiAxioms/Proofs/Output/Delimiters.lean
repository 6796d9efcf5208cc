import WikiAxioms.Proofs.Output.NormalForm
import WikiAxioms.Proofs.Output.TripleGrammar

/-!
# Axioms are delimited lines

A line of axioms is cut at its end only, and within a line literals and parentheses tell where a
term ends. That takes a reader who knows where he stands: outside of literals or in one, and within
how many parentheses. Main statement: such a reader finds every literal closed and every
parenthesis paired, the last one with the first, and no line break but the one that ends the line.
-/

namespace WikiAxioms.Output

open Grammar (IsInline isInline_append isInline_cons isInline_of_all)

/-! ## A reader -/

/-- Where a reader stands, within how many open parentheses. -/
inductive Place where
  | outside (depth : Nat)
  | literal (depth : Nat)
  /-- Behind a backslash in a literal. -/
  | escaped (depth : Nat)
  /-- Behind a parenthesis that closes nothing. -/
  | lost
  deriving DecidableEq

namespace Place

/-- Where the reader stands one character further on. -/
def next : Place → Char → Place
  | outside depth, c =>
    if c = '"' then literal depth
    else if c = '(' then outside (depth + 1)
    else if c = ')' then
      match depth with
      | 0 => lost
      | depth + 1 => outside depth
    else outside depth
  | literal depth, c =>
    if c = '"' then outside depth else if c = '\\' then escaped depth else literal depth
  | escaped depth, _ => literal depth
  | lost, _ => lost

def after (p : Place) (t : Text) : Place := t.foldl next p

/-- Inside of a literal, at a depth. -/
def IsInLiteral (depth : Nat) (p : Place) : Prop := p = literal depth ∨ p = escaped depth

/-- Within so many parentheses or more. -/
def IsWithin (depth : Nat) : Place → Prop
  | outside e | literal e | escaped e => depth ≤ e
  | lost => False

end Place

/-- A text in which literals are closed and parentheses paired, and which ends with the pair of its
first parenthesis. -/
structure IsDelimited (line : Text) : Prop where
  /-- A quote outside of literals opens one, which a quote that is not escaped closes. -/
  literal {front back : Text} {depth : Nat} : line = front ++ '"' :: back →
    (Place.outside 0).after front = .outside depth →
      ∃ body rest, back = body ++ '"' :: rest ∧ (Place.literal depth).after body = .literal depth ∧
        ∀ part, part <+: body → ((Place.literal depth).after part).IsInLiteral depth
  /-- A parenthesis outside of literals closes an open one, and the outermost at the end only. -/
  parenthesis {front back : Text} {depth : Nat} : line = front ++ ')' :: back →
    (Place.outside 0).after front = .outside depth → 0 < depth ∧ (depth = 1 ↔ back = [])
  getLast? : line.getLast? = some ')'
  after : (Place.outside 0).after line = .outside 0

/-- A text with one literal in it, which stands for `content`. -/
def HasLiteral (line content : Text) : Prop :=
  ∃ front body rest depth, line = front ++ '"' :: (body ++ '"' :: rest) ∧
    '"' ∉ front ∧ '"' ∉ rest ∧ (Place.outside 0).after front = .outside depth ∧
    (Place.literal depth).after body = .literal depth ∧
    readLiteral lineLetter? (body ++ '"' :: rest) = some (content, rest)

namespace Place

variable {p q : Place} {d e : Nat} {a b t : Text} {c : Char}

@[simp] theorem after_nil (p : Place) : p.after [] = p := rfl

@[simp] theorem after_cons (p : Place) (c : Char) (t : Text) :
    p.after (c :: t) = (p.next c).after t := rfl

@[simp] theorem after_append (p : Place) (a b : Text) : p.after (a ++ b) = (p.after a).after b :=
  List.foldl_append

@[simp] theorem next_outside_quote (d : Nat) : (outside d).next '"' = literal d := rfl

@[simp] theorem next_outside_opening (d : Nat) : (outside d).next '(' = outside (d + 1) := rfl

@[simp] theorem next_outside_closing (d : Nat) : (outside (d + 1)).next ')' = outside d := rfl

@[simp] theorem next_literal_quote (d : Nat) : (literal d).next '"' = outside d := rfl

@[simp] theorem next_literal_backslash (d : Nat) : (literal d).next '\\' = escaped d := rfl

@[simp] theorem next_escaped (d : Nat) (c : Char) : (escaped d).next c = literal d := rfl

theorem next_outside (hq : c ≠ '"') (ho : c ≠ '(') (hc : c ≠ ')') :
    (outside d).next c = outside d := by
  simp [next, hq, ho, hc]

theorem next_literal (hq : c ≠ '"') (hb : c ≠ '\\') : (literal d).next c = literal d := by
  simp [next, hq, hb]

theorem next_outside_of_not_isDelimiter (h : isDelimiter c = false) :
    (outside d).next c = outside d := by
  refine next_outside ?_ ?_ ?_ <;> rintro rfl <;> cases h

theorem IsWithin.mono (h : p.IsWithin e) (hd : d ≤ e) : p.IsWithin d := by
  cases p with
  | outside | literal | escaped => exact Nat.le_trans hd h
  | lost => exact h

/-- Out of a literal there is no way but through a quote. -/
theorem exists_closing (hp : p.IsInLiteral d) (h : p.after t = outside e) :
    ∃ body rest, t = body ++ '"' :: rest ∧ p.after body = literal d ∧
      ∀ part, part <+: body → (p.after part).IsInLiteral d := by
  induction t generalizing p with
  | nil =>
    rcases hp with rfl | rfl <;> cases h
  | cons c t ih =>
    by_cases hc : p = literal d ∧ c = '"'
    · obtain ⟨rfl, rfl⟩ := hc
      refine ⟨[], t, rfl, rfl, fun part hpart => ?_⟩
      rw [List.prefix_nil.mp hpart]
      exact hp
    · have hn : (p.next c).IsInLiteral d := by
        rcases hp with rfl | rfl
        · by_cases hb : c = '\\'
          · exact .inr (by rw [hb, next_literal_backslash])
          · exact .inl (next_literal (fun hq => hc ⟨rfl, hq⟩) hb)
        · exact .inl (next_escaped d c)
      obtain ⟨body, rest, rfl, hbody, hin⟩ := ih hn h
      refine ⟨c :: body, rest, rfl, hbody, fun part hpart => ?_⟩
      rcases List.prefix_cons_iff.mp hpart with rfl | ⟨part', rfl, hpart'⟩
      · exact hp
      · exact hin part' hpart'

/-! ## Texts that lead back to where they start -/

/-- A text behind which the reader stands where he stood before it, and in which he leaves no
parentheses that he was in. -/
structure Keeps (p : Place) (d : Nat) (t : Text) : Prop where
  after : p.after t = p
  isWithin : ∀ part, part <+: t → (p.after part).IsWithin d

theorem keeps_nil (h : p.IsWithin d) : Keeps p d [] where
  after := rfl
  isWithin part hpart := by
    rw [List.prefix_nil.mp hpart]
    exact h

namespace Keeps

theorem mono (h : Keeps p e t) (hd : d ≤ e) : Keeps p d t where
  after := h.after
  isWithin part hpart := (h.isWithin part hpart).mono hd

theorem append (ha : Keeps p d a) (hb : Keeps p d b) : Keeps p d (a ++ b) where
  after := by rw [after_append, ha.after, hb.after]
  isWithin part hpart := by
    rcases List.prefix_or_prefix_of_prefix hpart (List.prefix_append a b) with h | ⟨part, rfl⟩
    · exact ha.isWithin part h
    · rw [after_append, ha.after]
      exact hb.isWithin part ((List.prefix_append_right_inj a).mp hpart)

/-- Between two characters of which the second takes the first one back. -/
theorem enclosed {x y : Char} (h : Keeps q d t) (hx : p.next x = q) (hy : q.next y = p)
    (hp : p.IsWithin d) : Keeps p d (x :: (t ++ [y])) where
  after := by simp [hx, h.after, hy]
  isWithin part hpart := by
    rcases List.prefix_cons_iff.mp hpart with rfl | ⟨part', rfl, hpart'⟩
    · exact hp
    · rw [after_cons, hx]
      rcases List.prefix_concat_iff.mp hpart' with rfl | hpart'
      · simpa [h.after, hy] using hp
      · exact h.isWithin part' hpart'

end Keeps

theorem keeps_of_forall_mem (hp : p.IsWithin d) (h : ∀ c ∈ t, p.next c = p) : Keeps p d t := by
  have hafter : ∀ s : Text, (∀ c ∈ s, p.next c = p) → p.after s = p := by
    intro s hs
    induction s with
    | nil => rfl
    | cons c s ih =>
      rw [List.forall_mem_cons] at hs
      rw [after_cons, hs.1, ih hs.2]
  refine ⟨hafter t h, fun part hpart => ?_⟩
  rw [hafter part fun c hc => h c (hpart.subset hc)]
  exact hp

theorem keeps_word (h : ∀ c ∈ t, isDelimiter c = false) (d : Nat) : Keeps (outside d) d t :=
  keeps_of_forall_mem (Nat.le_refl d) fun c hc => next_outside_of_not_isDelimiter (h c hc)

/-- Inside of a literal the form of a character is passed over, whatever the character is. -/
theorem keeps_escapeChar (c : Char) (d : Nat) :
    Keeps (literal d) d (escapeChar lineEscapes c) := by
  have hl : (literal d).IsWithin d := Nat.le_refl d
  have he : (escaped d).IsWithin d := Nat.le_refl d
  rw [escapeChar]
  split
  · next letter h =>
    exact (keeps_nil he).enclosed (next_literal_backslash d) (next_escaped d letter) hl
  · next h =>
    refine keeps_of_forall_mem hl fun c' hc' => ?_
    rw [List.mem_singleton.mp hc']
    refine next_literal ?_ ?_ <;> rintro rfl <;> cases h

theorem keeps_escape (content : Text) (d : Nat) :
    Keeps (literal d) d (escape lineEscapes content) := by
  induction content with
  | nil => exact keeps_nil (Nat.le_refl d)
  | cons c content ih => exact (keeps_escapeChar c d).append ih

theorem keeps_quote (content : Text) (d : Nat) : Keeps (outside d) d (quote lineEscapes content) :=
  (keeps_escape content d).enclosed rfl rfl (Nat.le_refl d)

end Place

/-! ## Terms -/

namespace Term

open Place

theorem keeps_spacedTexts {ts : List Term} {d : Nat}
    (h : ∀ t ∈ ts, Keeps (outside d) d t.text) : Keeps (outside d) d (spacedTexts ts) := by
  have hb : Keeps (outside d) d [' '] := keeps_of_forall_mem (Nat.le_refl d) (by simp [next])
  induction ts with
  | nil => exact keeps_nil (Nat.le_refl d)
  | cons t ts ih =>
    rw [List.forall_mem_cons] at h
    exact (hb.append h.1).append (ih h.2)

theorem keeps_textOfList {ts : List Term} {d : Nat}
    (h : ∀ t ∈ ts, Keeps (outside d) d t.text) : Keeps (outside d) d (textOfList ts) := by
  cases ts with
  | nil => exact keeps_nil (Nat.le_refl d)
  | cons t ts =>
    rw [List.forall_mem_cons] at h
    rw [textOfList_cons]
    exact h.1.append (keeps_spacedTexts h.2)

/-- A readable term leaves the reader where he was, at any depth. -/
theorem IsReadable.keeps {t : Term} (h : t.IsReadable) (d : Nat) :
    Keeps (outside d) d t.text := by
  induction h generalizing d with
  | name hw =>
    rw [text]
    exact keeps_word hw.2 d
  | plain content =>
    rw [text]
    exact keeps_quote content d
  | typed content hw =>
    rw [text, List.append_assoc]
    have ht : ∀ c ∈ ['^', '^'], isDelimiter c = false :=
      List.forall_mem_cons.mpr ⟨rfl, List.forall_mem_singleton.mpr rfl⟩
    exact (keeps_quote content d).append ((keeps_word ht d).append (keeps_word hw.2 d))
  | @apply functor arguments hf _ ih =>
    have ha : Keeps (outside (d + 1)) d (textOfList arguments) :=
      (keeps_textOfList fun t ht => ih t ht (d + 1)).mono (Nat.le_succ d)
    have he := (keeps_word hf.2 d).append (ha.enclosed (next_outside_opening d)
      (next_outside_closing d) (Nat.le_refl d))
    simpa [text] using he

theorem isInline_escape (content : Text) : IsInline (escape lineEscapes content) := by
  induction content with
  | nil => simp [IsInline, escape]
  | cons c content ih =>
    refine isInline_append.mpr ⟨?_, ih⟩
    rw [escapeChar]
    split
    · next letter h =>
      obtain ⟨front, back, he, -⟩ := List.lookup_eq_some_iff.mp h
      have hall : lineEscapes.all (fun e => decide (IsInline ['\\', e.2])) = true := by decide
      exact of_decide_eq_true (List.all_eq_true.mp hall (c, letter) (by simp [he]))
    · next h =>
      -- line breaks are in the table
      intro c' hc'
      rw [List.mem_singleton.mp hc']
      constructor <;> rintro rfl <;> cases h

theorem isInline_quote (content : Text) : IsInline (quote lineEscapes content) := by
  rw [quote, List.cons_append, isInline_cons, isInline_append]
  exact ⟨by decide, isInline_escape content, by decide⟩

theorem isInline_word {w : Text} (hw : ∀ c ∈ w, isDelimiter c = false) : IsInline w :=
  isInline_of_all (p := (!isDelimiter ·)) (by decide) (by decide) (by simpa using hw)

theorem isInline_textOfList {ts : List Term} (h : ∀ t ∈ ts, IsInline t.text) :
    IsInline (textOfList ts) := by
  have hs (us : List Term) (hu : ∀ u ∈ us, IsInline u.text) : IsInline (spacedTexts us) := by
    intro c hc
    obtain ⟨u, hm, hc⟩ := List.mem_flatMap.mp hc
    exact isInline_cons.mpr ⟨by decide, hu u hm⟩ c hc
  cases ts with
  | nil => simp [IsInline, textOfList]
  | cons t ts =>
    rw [List.forall_mem_cons] at h
    rw [textOfList_cons, isInline_append]
    exact ⟨h.1, hs ts h.2⟩

/-- No readable term has a line break in it. -/
theorem IsReadable.isInline {t : Term} (h : t.IsReadable) : IsInline t.text := by
  induction h with
  | name hw =>
    rw [text]
    exact isInline_word hw.2
  | plain content =>
    rw [text]
    exact isInline_quote content
  | typed content hw =>
    rw [text, isInline_append, isInline_append]
    exact ⟨⟨isInline_quote content, by decide⟩, isInline_word hw.2⟩
  | apply hf _ ih =>
    rw [text]
    simp only [isInline_append]
    exact ⟨⟨⟨isInline_word hf.2, by decide⟩, isInline_textOfList ih⟩, by decide⟩

end Term

/-! ## Axioms -/

open Place

/-- Between two parentheses, one closes what was opened there, and the last one the first. -/
theorem depth_of_closing {body front back : Text} {d : Nat} (hbody : Keeps (outside 1) 1 body)
    (h : body ++ [')'] = front ++ ')' :: back) (hfront : (outside 1).after front = outside d) :
    0 < d ∧ (d = 1 ↔ back = []) := by
  rcases List.eq_nil_or_concat back with rfl | ⟨back', c, rfl⟩
  · obtain ⟨rfl, -⟩ := List.append_inj' h rfl
    obtain rfl : 1 = d := outside.inj (hbody.after.symm.trans hfront)
    simp
  · -- what is closed before the end is within the parentheses
    have hb : body = front ++ ')' :: back' := by
      rw [List.concat_eq_append, ← List.cons_append, ← List.append_assoc] at h
      exact (List.append_inj' h rfl).1
    have hwithin := hbody.isWithin (front ++ [')']) ⟨back', by simp [hb]⟩
    rw [after_append, hfront] at hwithin
    cases d with
    | zero => exact hwithin.elim
    | succ d =>
      have hd : 1 ≤ d := hwithin
      simpa using Nat.ne_of_gt hd

/-- A functor with arguments is delimited by the parentheses around the arguments. -/
theorem isDelimited_apply {functor : Text} {arguments : List Term}
    (h : (Term.apply functor arguments).IsReadable) :
    IsDelimited (Term.apply functor arguments).text := by
  cases h with
  | apply hf ha =>
    have hword : (outside 0).after functor = outside 0 := (keeps_word hf.2 0).after
    have hbody : Keeps (outside 1) 1 (Term.textOfList arguments) :=
      Term.keeps_textOfList fun t ht => (ha t ht).keeps 1
    have hend : (outside 0).after (Term.apply functor arguments).text = outside 0 :=
      ((Term.IsReadable.apply hf ha).keeps 0).after
    have hline : (Term.apply functor arguments).text =
        functor ++ '(' :: (Term.textOfList arguments ++ [')']) := by simp [Term.text]
    refine ⟨fun {front back depth} h hfront => ?_, fun {front back depth} h hfront => ?_, ?_, hend⟩
    · rw [h, after_append, after_cons, hfront, next_outside_quote] at hend
      exact exists_closing (.inl rfl) hend
    · -- the functor has no parenthesis in it, so `front` goes beyond it
      rw [hline] at h
      rcases List.append_eq_append_iff.mp h with ⟨front', rfl, hr⟩ | ⟨back', rfl, hr⟩
      · cases front' with
        | nil => cases (List.cons.inj hr).1
        | cons c front' =>
          obtain ⟨rfl, hbody'⟩ := List.cons.inj hr
          rw [after_append, hword] at hfront
          exact depth_of_closing hbody hbody' hfront
      · cases back' with
        | nil => cases (List.cons.inj hr).1
        | cons c back' =>
          obtain ⟨rfl, -⟩ := List.cons.inj hr
          cases hf.2 ')' (by simp)
    · rw [hline, ← List.cons_append, ← List.append_assoc, List.getLast?_concat]

section Axioms

variable {a : Text} {p : PropertyId}

/-- Every axiom is a functor with arguments. -/
theorem exists_apply_of_axiomOf? {rule : Rule} {t : Term} (h : axiomOf? a p rule = some t) :
    ∃ functor arguments, t = .apply functor arguments := by
  cases rule with
  | type _ membership | valueType _ membership => cases membership <;> cases h <;> exact ⟨_, _, rfl⟩
  | _ => cases h <;> exact ⟨_, _, rfl⟩

variable (ha : ∀ c ∈ a, isDelimiter c = false)

include ha

theorem isDelimited_of_axiomOf? {rule : Rule} {t : Term} (h : axiomOf? a p rule = some t) :
    IsDelimited t.text := by
  have hr := isReadable_of_axiomOf? ha h
  obtain ⟨functor, arguments, rfl⟩ := exists_apply_of_axiomOf? h
  exact isDelimited_apply hr

/-- The one literal in the axiom of a pattern stands for the pattern. -/
theorem hasLiteral_format {pattern : Text} {t : Term}
    (h : axiomOf? a p (.format pattern) = some t) : HasLiteral t.text pattern := by
  obtain rfl := Option.some.inj h
  have hword : ∀ c ∈ a ++ [':'] ++ p.text, isDelimiter c = false := by
    have hr : (Term.name (a ++ [':'] ++ p.text)).IsReadable := isReadable_entityTerm ha p
    cases hr with
    | name hw => exact hw.2
  have hquote : '"' ∉ a ++ [':'] ++ p.text := fun hm => by cases hword _ hm
  refine ⟨"DataPropertyRange(".toList ++ ((a ++ [':'] ++ p.text) ++
    " DatatypeRestriction(xsd:string xsd:pattern ".toList), escape lineEscapes pattern, [')', ')'],
    2, ?_, ?_, by decide, ?_, (keeps_escape pattern 2).after,
    readLiteral_escape isReadable_lineEscapes pattern _⟩
  · simp [textsMatching, entityTerm, Term.text, Term.textOfList, quote]
  · simp only [List.mem_append, not_or] at hquote ⊢
    exact ⟨by decide, hquote, by decide⟩
  · have hfront : (outside 0).after "DataPropertyRange(".toList = outside 1 := by decide
    rw [after_append, hfront, after_append, (keeps_word hword 1).after]
    decide

end Axioms

variable {settings : RenderSettings} {c : Constraint}

/-- Unless the abbreviation gets in the way, a supported constraint is written as one line, which
has no other line break in it. Read from left to right, every literal in it is closed and every
parenthesis paired, the last one with the first. A pattern is what the literal in its axiom stands
for. -/
theorem append_functional_isDelimited
    (ha : ∀ ch ∈ settings.abbreviation, isSpace ch = false ∧ ch ≠ '(' ∧ ch ≠ ')' ∧ ch ≠ '"')
    (hc : (functional settings).supports c.kind = true) :
    ∃ line, (∀ ordinal buffer,
        (functional settings).append ordinal c buffer = (.ok (), buffer ++ (line ++ ['\n']))) ∧
      '\n' ∉ line ∧ '\r' ∉ line ∧ IsDelimited line ∧
      ∀ pattern, c.rule = .format pattern → HasLiteral line pattern := by
  have hd : ∀ ch ∈ settings.abbreviation, isDelimiter ch = false := fun ch hm => by
    simp [isDelimiter, ha ch hm]
  rw [supports_functional] at hc
  obtain ⟨t, ht⟩ := Option.isSome_iff_exists.mp hc
  have hline : IsInline t.text := (isReadable_of_axiomOf? hd ht).isInline
  exact ⟨t.text, append_functional_of_axiomOf? ht, fun hm => (hline _ hm).1 rfl,
    fun hm => (hline _ hm).2 rfl, isDelimited_of_axiomOf? hd ht,
    fun pattern hp => hasLiteral_format hd (hp ▸ ht)⟩

/-- A pattern that would end its literal, its term and its line, and a backslash in the
abbreviation. -/
theorem append_functional_isDelimited_pattern :
    let settings := { RenderSettings.default with abbreviation := ['w', '\\'] }
    let pattern : Text := ['"', ')', ')', '\n', '(', '\r', '\\']
    let c : Constraint := ⟨.instanceOf, .format pattern⟩
    (∀ ch ∈ settings.abbreviation, isSpace ch = false ∧ ch ≠ '(' ∧ ch ≠ ')' ∧ ch ≠ '"') ∧
      (functional settings).supports c.kind = true ∧
      ∃ line, (∀ ordinal buffer,
          (functional settings).append ordinal c buffer = (.ok (), buffer ++ (line ++ ['\n']))) ∧
        '\n' ∉ line ∧ '\r' ∉ line ∧ IsDelimited line ∧ HasLiteral line pattern := by
  intro settings pattern c
  have ha : ∀ ch ∈ settings.abbreviation,
      isSpace ch = false ∧ ch ≠ '(' ∧ ch ≠ ')' ∧ ch ≠ '"' :=
    List.forall_mem_cons.mpr ⟨by decide, List.forall_mem_singleton.mpr (by decide)⟩
  obtain ⟨line, happend, hn, hr, hd, hl⟩ := append_functional_isDelimited (c := c) ha rfl
  exact ⟨ha, rfl, line, happend, hn, hr, hd, hl pattern rfl⟩

end WikiAxioms.Output
