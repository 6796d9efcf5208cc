import Mathlib.Data.List.Chain
import WikiAxioms.Markup.Page
import WikiAxioms.Proofs.Markup.Fields
import WikiAxioms.Proofs.Text.Bytes

/-!
# Declarations found on a page

The braces that end a declaration are found by counting pairs, without regard to tokens. For what
reads as a declaration the two views agree: between its opening and its closing braces no two
braces of one kind stand side by side, unless they stand in nowiki markers. So a page of prose and
declarations in turn is cut exactly into them.
-/

namespace WikiAxioms.Markup

/-! ## Braces side by side -/

def isBraceChar (c : Char) : Bool := c == '\x7b' || c == '\x7d'

/-- No two braces of one kind stand side by side. -/
def IsPairless (t : Text) : Prop := t.IsChain fun c d => c = d → isBraceChar c = false

/-- Pairless with any neighbours: no brace stands at an end either. -/
structure IsUnpaired (t : Text) : Prop where
  pairless : IsPairless t
  first : ∀ c ∈ t.head?, isBraceChar c = false
  last : ∀ c ∈ t.getLast?, isBraceChar c = false

theorem isBraceChar_of_all {t : Text} (h : t.all (!isBraceChar ·) = true) :
    ∀ c ∈ t, isBraceChar c = false :=
  fun c hc => by simpa using List.all_eq_true.mp h c hc

theorem isPairless_of_forall {t : Text} (h : ∀ c ∈ t, isBraceChar c = false) : IsPairless t := by
  induction t with
  | nil => exact .nil
  | cons c t ih =>
    rw [List.forall_mem_cons] at h
    exact List.isChain_cons.mpr ⟨fun _ _ _ => h.1, ih h.2⟩

namespace IsUnpaired

theorem of_forall {t : Text} (h : ∀ c ∈ t, isBraceChar c = false) : IsUnpaired t where
  pairless := isPairless_of_forall h
  first c hc := h c (List.mem_of_head? hc)
  last c hc := h c (List.mem_of_getLast? hc)

theorem of_all {t : Text} (h : t.all (!isBraceChar ·) = true) : IsUnpaired t :=
  .of_forall (isBraceChar_of_all h)

/-- Whatever is pairless may stand between texts that make no pairs with their neighbours. -/
theorem append_pairless {t u v : Text} (ht : IsUnpaired t) (hu : IsPairless u) (hv : IsUnpaired v) :
    IsPairless (t ++ u ++ v) := by
  refine List.isChain_append.mpr ⟨List.isChain_append.mpr ⟨ht.pairless, hu, ?_⟩, hv.pairless, ?_⟩
  · intro c hc d _ _
    exact ht.last c hc
  · rintro c _ d hd rfl
    exact hv.first c hd

theorem append {t u : Text} (ht : IsUnpaired t) (hu : IsUnpaired u) : IsUnpaired (t ++ u) where
  pairless := by
    have h := ht.append_pairless .nil hu
    rwa [List.append_nil] at h
  first c hc := by
    rw [List.head?_append] at hc
    cases t with
    | nil => exact hu.first c hc
    | cons d t => exact ht.first c hc
  last c hc := by
    rw [List.getLast?_append] at hc
    cases h : u.getLast? with
    | none =>
      rw [h] at hc
      exact ht.last c hc
    | some d =>
      rw [h] at hc
      exact hu.last c (h.trans hc)

end IsUnpaired

/-! ## Tokens of a declaration -/

/-- A token that is no brace has braces in it only between nowiki markers. -/
theorem isBraceChar_of_mem_source {k : Token} (hk : k.IsLexeme) (hb : k.isBrace = false)
    (hn : ∀ body, k ≠ .nowiki body) : ∀ c ∈ k.source, isBraceChar c = false := by
  cases k with
  | opening | closing | loneOpening | loneClosing => cases hb
  | pipe | equals | linkOpening | linkClosing => exact isBraceChar_of_all (by decide)
  | char s => rcases hk with rfl | rfl | rfl | rfl <;> exact isBraceChar_of_all (by decide)
  | text s =>
    intro c hc
    have hs := hk c hc
    simp only [isSpecial, Bool.or_eq_false_iff] at hs
    simp [isBraceChar, hs]
  | nowiki body => exact absurd rfl (hn body)

/-- A token that is no brace pairs none with its neighbours. -/
theorem isUnpaired_source {k : Token} (hk : k.IsLexeme) (hb : k.isBrace = false)
    (hn : ∀ body, k = .nowiki body → IsPairless body) : IsUnpaired k.source := by
  by_cases hm : ∃ body, k = .nowiki body
  · obtain ⟨body, rfl⟩ := hm
    have ho : IsUnpaired nowikiOpening := .of_all (by decide)
    have hc : IsUnpaired nowikiClosing := .of_all (by decide)
    exact
      { pairless := ho.append_pairless (hn body rfl) hc
        first := by simp [Token.source, nowikiOpening, isBraceChar]
        last := by
          simp [Token.source, nowikiClosing, nowikiName, isBraceChar] }
  · exact .of_forall (isBraceChar_of_mem_source hk hb (not_exists.mp hm))

theorem isUnpaired_sources {ts : List Token} (h : ∀ k ∈ ts, IsUnpaired k.source) :
    IsUnpaired (sources ts) := by
  induction ts with
  | nil => exact .of_forall (by simp [sources])
  | cons k ts ih =>
    rw [List.forall_mem_cons] at h
    exact h.1.append (ih h.2)

/-- A declaration as it may stand on a page: it is read, the mark of constraints comes first in it,
and nowiki markers hide no pairs of braces. -/
structure IsPageDeclaration (d : Text) : Prop where
  opens : ['\x7b', '\x7b'] <+: d
  closes : ['\x7d', '\x7d'] <:+ d
  read : ∃ t, Template.ofText d = .ok t
  marked : ∃ blanks mark rest, d = ['\x7b', '\x7b'] ++ blanks ++ mark ++ rest ∧
    (∀ c ∈ blanks, isSpace c = true) ∧ Text.sameLetters mark constraintMark = true
  pairless : ∀ body, .nowiki body ∈ tokens d → IsPairless body

theorem isSpace_of_mem_padding {ts : List Token} (h : IsPadding ts) :
    ∀ c ∈ sources ts, isSpace c = true := by
  cases h with
  | none => simp [sources]
  | some h => simpa [sources, Token.source] using h

/-- Padding would keep opening braces from the start of a text. -/
theorem sources_eq_nil_of_opens {front : List Token} (hfront : IsPadding front) {rest : Text}
    (h : ['\x7b', '\x7b'] <+: sources front ++ rest) : sources front = [] := by
  cases hc : sources front with
  | nil => rfl
  | cons c r =>
    have hs := isSpace_of_mem_padding hfront c (by simp [hc])
    rw [hc, List.cons_append, List.cons_prefix_cons] at h
    rw [← h.1] at hs
    cases hs

/-- Padding would keep closing braces from the end of a text. -/
theorem sources_eq_nil_of_closes {back : List Token} (hback : IsPadding back) {lead : Text}
    (h : ['\x7d', '\x7d'] <:+ lead ++ sources back) : sources back = [] := by
  rcases List.eq_nil_or_concat (sources back) with hn | ⟨r, c, hc⟩
  · exact hn
  · have hs := isSpace_of_mem_padding hback c (by simp [hc])
    obtain ⟨lead', hlead⟩ := h
    have hl := congrArg List.getLast? hlead
    rw [List.concat_eq_append] at hc
    simp only [hc, List.getLast?_append, List.getLast?_singleton, List.getLast?_cons_cons,
      Option.some_or, Option.some.injEq] at hl
    rw [← hl] at hs
    cases hs

/-- What is read as a declaration and starts with its braces holds no other tokens of braces but
the closing ones, which padding may follow. -/
theorem exists_inner_of_ofText {d : Text} {t : Template} (h : Template.ofText d = .ok t)
    (ho : ['\x7b', '\x7b'] <+: d) :
    ∃ inner back, d = '\x7b' :: '\x7b' :: (sources inner ++ ['\x7d', '\x7d']) ++ sources back ∧
      IsPadding back ∧ ∀ k ∈ inner, k ∈ tokens d ∧ k.isBrace = false := by
  obtain ⟨front, name, fields, back, arguments, hts, hfront, hn, hback, -, ha, -⟩ :=
    denotes_of_ofText h
  let inner := name ++ fields.flatMap (.pipe :: ·)
  have hd : d = sources front ++ '\x7b' :: '\x7b' :: (sources inner ++ ['\x7d', '\x7d']) ++
      sources back := by
    have hs := sources_tokens d
    rw [hts] at hs
    simpa [declarationTokens, sources_append, sources, Token.source, inner] using hs.symm
  have hf : sources front = [] := by
    rw [List.append_assoc] at hd
    exact sources_eq_nil_of_opens hfront (hd ▸ ho)
  refine ⟨inner, back, by rw [hf, List.nil_append] at hd; exact hd, hback, fun k hk => ⟨?_, ?_⟩⟩
  · rw [hts, declarationTokens]
    simp only [inner, List.mem_append, List.mem_cons] at hk ⊢
    tauto
  · rcases List.mem_append.mp hk with hk | hk
    · exact hn.isBrace_eq_false k hk
    · obtain ⟨f, hf, hk⟩ := List.mem_flatMap.mp hk
      rcases List.mem_cons.mp hk with rfl | hk
      · rfl
      · exact (isField_of_forall₂_declares ha f hf).isBrace_eq_false k hk

/-- Between its braces, a declaration pairs no braces. -/
theorem IsPageDeclaration.exists_body {d : Text} (h : IsPageDeclaration d) :
    ∃ body, d = '\x7b' :: '\x7b' :: (body ++ ['\x7d', '\x7d']) ∧ IsUnpaired body := by
  obtain ⟨t, ht⟩ := h.read
  obtain ⟨inner, back, hd, hback, hinner⟩ := exists_inner_of_ofText ht h.opens
  have hb : sources back = [] := sources_eq_nil_of_closes hback (hd ▸ h.closes)
  refine ⟨sources inner, by simpa [hb] using hd, isUnpaired_sources fun k hk => ?_⟩
  refine isUnpaired_source (isLexeme_of_mem_tokens (hinner k hk).1) (hinner k hk).2 ?_
  rintro body rfl
  exact h.pairless body (hinner _ hk).1

/-! ## Scanning -/

theorem balanced_cons {c d : Char} (h : c = d → isBraceChar c = false) (depth : Nat) (r : Text) :
    balanced depth (c :: d :: r) =
      (c :: (balanced depth (d :: r)).1, (balanced depth (d :: r)).2) := by
  have ho : ¬ (c = '\x7b' ∧ d = '\x7b') := by
    rintro ⟨rfl, rfl⟩
    cases h rfl
  have hc : ¬ (c = '\x7d' ∧ d = '\x7d') := by
    rintro ⟨rfl, rfl⟩
    cases h rfl
  rw [balanced, if_neg ho, if_neg hc]
  rfl

/-- One open pair of braces is closed by the first pair behind an unpaired text. -/
theorem balanced_body {body : Text} (hp : IsPairless body) (hl : body.getLast? ≠ some '\x7d')
    (rest : Text) :
    balanced 1 (body ++ '\x7d' :: '\x7d' :: rest) = (body ++ ['\x7d', '\x7d'], rest) := by
  induction body with
  | nil => rfl
  | cons c body ih =>
    have hp' := List.isChain_cons.mp hp
    cases body with
    | nil =>
      have hc : c ≠ '\x7d' := by simpa using hl
      rw [List.singleton_append, balanced_cons (fun he => absurd he hc)]
      rfl
    | cons d body =>
      have hb := ih hp'.2 (by simpa using hl)
      simp only [List.cons_append] at hb ⊢
      rw [balanced_cons (hp'.1 d rfl), hb]

/-- Prose without opening braces is skipped. -/
theorem templates_prose {prose : Text} (h : '\x7b' ∉ prose) (offset : Nat) (rest : Text) :
    templates offset (prose ++ rest) = templates (offset + prose.byteLength) rest := by
  induction prose generalizing offset with
  | nil => rfl
  | cons c prose ih =>
    rw [List.mem_cons, not_or] at h
    have hc : c ≠ '\x7b' := Ne.symm h.1
    rw [Text.byteLength_cons, ← Nat.add_assoc, ← ih h.2, List.cons_append]
    cases prose ++ rest with
    | nil => rw [templates, templates]
    | cons d r => rw [templates, if_neg fun he => hc he.1]

/-- A declaration is cut out whole. -/
theorem templates_declaration {d : Text} (h : IsPageDeclaration d) (offset : Nat) (rest : Text) :
    templates offset (d ++ rest) = ⟨offset, d⟩ :: templates (offset + d.byteLength) rest := by
  obtain ⟨body, rfl, hb⟩ := h.exists_body
  have hl : body.getLast? ≠ some '\x7d' := fun he => by cases hb.last _ he
  rw [List.cons_append, List.cons_append, templates, if_pos ⟨rfl, rfl⟩, List.append_assoc]
  simp only [List.cons_append, List.nil_append, balanced_body hb.pairless hl rest]

theorem toLower_of_isSpace {c : Char} (h : isSpace c = true) : c.toLower = c := by
  have hn : ¬ (65 ≤ c.toNat ∧ c.toNat ≤ 90) := by
    intro hu
    simp only [isSpace, Bool.or_eq_true, Bool.and_eq_true, decide_eq_true_eq, beq_iff_eq] at h
    omega
  have hv : ¬ (c.val ≥ 'A'.val ∧ c.val ≤ 'Z'.val) := fun hu =>
    hn ⟨UInt32.le_iff_toNat_le.mp hu.1, UInt32.le_iff_toNat_le.mp hu.2⟩
  exact dif_neg hv

section Mark

variable {mark : Text} (h : Text.sameLetters mark constraintMark = true)

include h

theorem length_mark : mark.length = constraintMark.length := by
  rw [Text.sameLetters, beq_iff_eq] at h
  simpa using congrArg List.length h

theorem toLower_mem_of_mem_mark {c : Char} (hc : c ∈ mark) : c.toLower ∈ constraintMark := by
  have hsmall : constraintMark.map Char.toLower = constraintMark := by decide
  rw [Text.sameLetters, beq_iff_eq, hsmall] at h
  rw [← h]
  exact List.mem_map_of_mem hc

/-- White space is no letter of the mark in either case. -/
theorem isSpace_of_mem_mark {c : Char} (hc : c ∈ mark) : isSpace c = false := by
  have hlow := toLower_mem_of_mem_mark h hc
  have hmark : constraintMark.all (!isSpace ·) = true := by decide
  by_contra hs
  rw [Bool.not_eq_false] at hs
  rw [toLower_of_isSpace hs] at hlow
  simpa [hs] using List.all_eq_true.mp hmark c hlow

end Mark

/-- Behind opening braces and white space, as much of either as there is, the mark of constraints
stands. -/
def IsMarked (t : Text) : Prop :=
  ∃ braces blanks mark rest, t = braces ++ blanks ++ mark ++ rest ∧
    (∀ c ∈ braces, c = '\x7b') ∧ (∀ c ∈ blanks, isSpace c = true) ∧
    Text.sameLetters mark constraintMark = true

theorem declaresConstraint_of_isMarked {t : Text} (h : IsMarked t) :
    declaresConstraint t = true := by
  obtain ⟨braces, blanks, mark, rest, rfl, ho, hb, hm⟩ := h
  have hlen := length_mark hm
  obtain ⟨m, ms, rfl⟩ := List.exists_cons_of_length_eq_add_one hlen
  -- the mark starts neither with a brace nor with white space
  have hbrace : m ≠ '\x7b' := by
    rintro rfl
    exact absurd (toLower_mem_of_mem_mark hm (List.mem_cons_self ..)) (by decide)
  have hspace : isSpace m = false := isSpace_of_mem_mark hm (List.mem_cons_self ..)
  have hdrop : (braces ++ blanks ++ m :: ms ++ rest).dropWhile (· == '\x7b') =
      blanks ++ m :: ms ++ rest := by
    rw [List.append_assoc, List.append_assoc,
      List.dropWhile_append_of_pos fun c hc => beq_iff_eq.mpr (ho c hc)]
    cases blanks with
    | nil => simp [hbrace]
    | cons b blanks =>
      have hne : b ≠ '\x7b' := by
        rintro rfl
        cases hb _ (List.mem_cons_self ..)
      simp [hne]
  have htrim : Text.trimStart (blanks ++ m :: ms ++ rest) = m :: ms ++ rest := by
    rw [Text.trimStart, List.append_assoc, List.dropWhile_append_of_pos hb, List.cons_append,
      List.dropWhile_cons_of_neg (by simp [hspace])]
  rw [declaresConstraint, hdrop, htrim, hasConstraintMark, ← hlen, List.take_left]
  exact hm

/-- What is kept of a page is what bears the mark. -/
theorem declaresConstraint_iff_isMarked {t : Text} : declaresConstraint t = true ↔ IsMarked t := by
  refine ⟨fun h => ?_, declaresConstraint_of_isMarked⟩
  let inner := t.dropWhile (· == '\x7b')
  let name := Text.trimStart inner
  refine ⟨t.takeWhile (· == '\x7b'), inner.takeWhile isSpace, name.take constraintMark.length,
    name.drop constraintMark.length, ?_, fun c hc => ?_, fun c hc => List.mem_takeWhile_imp hc, h⟩
  · rw [List.append_assoc, List.take_append_drop, List.append_assoc]
    simp only [name, Text.trimStart, List.takeWhile_append_dropWhile, inner]
  · exact beq_iff_eq.mp (List.mem_takeWhile_imp (p := (· == '\x7b')) hc)

instance (t : Text) : Decidable (IsMarked t) :=
  decidable_of_iff _ declaresConstraint_iff_isMarked

/-- What stands right behind the braces and blanks of a declaration is the mark. -/
theorem IsPageDeclaration.declaresConstraint {d : Text} (h : IsPageDeclaration d) :
    declaresConstraint d = true := by
  obtain ⟨blanks, mark, rest, hd, hb, hm⟩ := h.marked
  exact declaresConstraint_of_isMarked ⟨_, blanks, mark, rest, hd, by simp, hb, hm⟩

/-- A page on which prose and declarations take turns. -/
def pageOf (prose : Text) (parts : List (Text × Text)) : Text :=
  prose ++ parts.flatMap fun part => part.1 ++ part.2

theorem templates_pageOf {prose : Text} {parts : List (Text × Text)} (hprose : '\x7b' ∉ prose)
    (hparts : ∀ part ∈ parts, IsPageDeclaration part.1 ∧ '\x7b' ∉ part.2) (offset : Nat) :
    templates offset (pageOf prose parts) = parts.mapIdx fun i part =>
      ⟨offset + (pageOf prose (parts.take i)).byteLength, part.1⟩ := by
  induction parts generalizing prose offset with
  | nil =>
    have h := templates_prose hprose offset []
    simpa [pageOf, templates] using h
  | cons part parts ih =>
    rw [List.forall_mem_cons] at hparts
    have hpage : pageOf prose (part :: parts) = prose ++ (part.1 ++ pageOf part.2 parts) := by
      simp [pageOf]
    rw [hpage, templates_prose hprose, templates_declaration hparts.1.1, ih hparts.1.2 hparts.2,
      List.mapIdx_cons]
    simp [pageOf, Nat.add_assoc]

/-- On a page of prose and declarations in turn exactly the declarations are found, each where it
stands. -/
theorem declarations_pageOf {prose : Text} {parts : List (Text × Text)} (hprose : '\x7b' ∉ prose)
    (hparts : ∀ part ∈ parts, IsPageDeclaration part.1 ∧ '\x7b' ∉ part.2) :
    declarations (pageOf prose parts) = parts.mapIdx fun i part =>
      ⟨(pageOf prose (parts.take i)).byteLength, part.1⟩ := by
  have ht := templates_pageOf hprose hparts 0
  simp only [Nat.zero_add] at ht
  rw [declarations, ht, List.filter_eq_self]
  intro e he
  obtain ⟨i, hi, rfl⟩ := List.mem_mapIdx.mp he
  exact (hparts _ (List.getElem_mem hi)).1.declaresConstraint

/-- Stray braces in the prose and single ones in a nowiki marker shift nothing. -/
theorem declarations_pageOf_strayBraces :
    let prose : Text := "É \x7d\x7d "
    let first : Text := "\x7b\x7b cOnstraint:Format|pattern=<nowiki>\x7ba\x7d|b</nowiki>\x7d\x7d"
    let second : Text := "\x7b\x7bConstraint:Item|property=[[P31|x]]\x7d\x7d"
    let parts : List (Text × Text) := [(first, "\x7d"), (second, "ß")]
    '\x7b' ∉ prose ∧ (∀ part ∈ parts, IsPageDeclaration part.1 ∧ '\x7b' ∉ part.2) ∧
      declarations (pageOf prose parts) = [⟨6, first⟩, ⟨60, second⟩] := by
  intro prose first second parts
  have hread {d : Text} (h : (Template.ofText d).toOption.isSome = true) :
      ∃ t, Template.ofText d = .ok t := by
    cases hd : Template.ofText d with
    | error fault => rw [hd] at h; cases h
    | ok t => exact ⟨t, rfl⟩
  have hfirst : IsPageDeclaration first :=
    { opens := by decide
      closes := by decide
      read := hread (by decide +kernel)
      marked := ⟨[' '], "cOnstraint:", "Format|pattern=<nowiki>\x7ba\x7d|b</nowiki>\x7d\x7d",
        by decide, List.forall_mem_singleton.mpr rfl, by decide⟩
      pairless := by
        intro body hb
        have ht : tokens first = [.opening, .text " cOnstraint:Format", .pipe, .text "pattern",
            .equals, .nowiki "\x7ba\x7d|b", .closing] := by decide +kernel
        have hb : body = "\x7ba\x7d|b".toList := by simpa [ht] using hb
        rw [hb, IsPairless]
        decide }
  have hsecond : IsPageDeclaration second :=
    { opens := by decide
      closes := by decide
      read := hread (by decide +kernel)
      marked := ⟨[], "Constraint:", "Item|property=[[P31|x]]\x7d\x7d",
        by decide, List.forall_mem_nil _, by decide⟩
      pairless := by
        intro body hb
        have ht : tokens second = [.opening, .text "Constraint:Item", .pipe, .text "property",
            .equals, .linkOpening, .text "P31", .pipe, .text "x", .linkClosing, .closing] := by
          decide +kernel
        simp [ht] at hb }
  have hparts : ∀ part ∈ parts, IsPageDeclaration part.1 ∧ '\x7b' ∉ part.2 := by
    simp only [parts, List.forall_mem_cons]
    exact ⟨⟨hfirst, by decide⟩, ⟨hsecond, by decide⟩, by simp⟩
  refine ⟨by decide, hparts, ?_⟩
  rw [declarations_pageOf (by decide) hparts]
  decide +kernel

end WikiAxioms.Markup
