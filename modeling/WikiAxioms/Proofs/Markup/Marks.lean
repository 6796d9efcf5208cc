import WikiAxioms.Proofs.Markup.Grammar
import WikiAxioms.Proofs.Markup.Lexing

/-!
# The marks of a field

Whether tokens are a field, or a key, is up to its marks alone: the tokens that are no words. White
space at the ends of a text leaves no mark.
-/

namespace WikiAxioms.Markup

/-- The tokens that are not text wherever they stand. -/
def marks (f : Field) : Field := f.filter (!·.isPlain)

@[simp] theorem marks_nil : marks [] = [] := rfl

@[simp] theorem marks_append (f g : Field) : marks (f ++ g) = marks f ++ marks g :=
  List.filter_append ..

theorem marks_cons (k : Token) (f : Field) : marks (k :: f) = marks [k] ++ marks f :=
  marks_append [k] f

theorem marks_cons_of_isWord {k : Token} (h : IsWord k) (f : Field) :
    marks (k :: f) = marks f := by
  rw [marks, List.filter_cons_of_neg (by simp [(isPlain_iff k).mpr h]), marks]

theorem marks_cons_of_not_isWord {k : Token} (h : ¬ IsWord k) (f : Field) :
    marks (k :: f) = k :: marks f := by
  rw [← isPlain_iff] at h
  rw [marks, List.filter_cons_of_pos (by simpa using h), marks]

/-! ## Words in a field -/

theorem isLink_marks {l : Field} (h : IsLink l) : IsLink (marks l) := by
  obtain ⟨hp⟩ := h
  rename_i parts
  have hl : marks (.linkOpening :: parts ++ [.linkClosing]) =
      .linkOpening :: marks parts ++ [.linkClosing] := by
    simp [marks, Token.isPlain]
  rw [hl]
  exact .mk fun t ht => hp t (List.mem_filter.mp ht).1

/-- Between its brackets, a link takes up a word. -/
theorem isLink_insert {k : Token} (hk : IsWord k) {l₁ l₂ : Field} (h : IsLink (l₁ ++ l₂)) :
    l₁ = [] ∨ l₂ = [] ∨ IsLink (l₁ ++ k :: l₂) := by
  generalize hl : l₁ ++ l₂ = l at h
  obtain ⟨hp⟩ := h
  rename_i parts
  cases l₁ with
  | nil => exact .inl rfl
  | cons o f =>
    rcases List.eq_nil_or_concat l₂ with rfl | ⟨g, c, rfl⟩
    · exact .inr (.inl rfl)
    · rw [List.concat_eq_append, ← List.append_assoc, List.cons_append] at hl
      obtain ⟨hf, hc⟩ := List.append_inj' hl rfl
      obtain rfl := List.singleton_inj.mp hc
      obtain ⟨rfl, rfl⟩ := List.cons.inj hf
      rw [List.forall_mem_append] at hp
      have hp' : ∀ t ∈ f ++ k :: g, IsLinkPart t :=
        List.forall_mem_append.mpr ⟨hp.1, List.forall_mem_cons.mpr ⟨.word hk, hp.2⟩⟩
      refine .inr (.inr ?_)
      rw [List.concat_eq_append, ← List.cons_append, ← List.append_assoc]
      exact .mk hp'

variable {outside : Token → Prop}

theorem pieces_marks {f : Field} (h : Pieces outside f) : Pieces outside (marks f) := by
  induction h with
  | nil => exact .nil
  | @token t f ht _ ih =>
    by_cases hw : IsWord t
    · rwa [marks_cons_of_isWord hw]
    · rw [marks_cons_of_not_isWord hw]
      exact .token ht ih
  | link hl _ ih =>
    rw [marks_append]
    exact .link (isLink_marks hl) ih

/-- A word may stand anywhere, in a link and outside. -/
theorem pieces_insert (hw : ∀ t, IsWord t → outside t) {k : Token} (hk : IsWord k) {f g : Field}
    (h : Pieces outside (f ++ g)) : Pieces outside (f ++ k :: g) := by
  generalize hfg : f ++ g = fg at h
  induction h generalizing f with
  | nil =>
    obtain ⟨rfl, rfl⟩ := List.append_eq_nil_iff.mp hfg
    exact .token (hw k hk) .nil
  | @token t h ht hp ih =>
    cases f with
    | nil =>
      rw [List.nil_append] at hfg ⊢
      exact .token (hw k hk) (hfg ▸ .token ht hp)
    | cons t' f =>
      obtain ⟨rfl, rfl⟩ := List.cons.inj hfg
      exact .token ht (ih rfl)
  | @link l h hl hp ih =>
    -- the word stands in front of the link, in it, or behind it
    rcases List.append_eq_append_iff.mp hfg with ⟨l', rfl, rfl⟩ | ⟨f', rfl, rfl⟩
    · rcases isLink_insert hk hl with rfl | rfl | hl'
      · exact .token (hw k hk) (.link hl hp)
      · rw [List.append_nil] at hl
        exact .link hl (.token (hw k hk) hp)
      · have hi := Pieces.link hl' hp
        simpa using hi
    · rw [List.append_assoc]
      exact .link hl (ih rfl)

theorem pieces_of_marks (hw : ∀ t, IsWord t → outside t) {f g : Field}
    (h : Pieces outside (f ++ marks g)) : Pieces outside (f ++ g) := by
  induction g generalizing f with
  | nil => exact h
  | cons k g ih =>
    by_cases hk : IsWord k
    · rw [marks_cons_of_isWord hk] at h
      exact pieces_insert hw hk (ih h)
    · rw [marks_cons_of_not_isWord hk] at h
      have hc := ih (f := f ++ [k]) (by simpa using h)
      simpa using hc

/-- Fields with the same marks are fields of the same kind. -/
theorem Pieces.of_marks_eq (hw : ∀ t, IsWord t → outside t) {f g : Field}
    (hm : marks f = marks g) (h : Pieces outside f) : Pieces outside g :=
  pieces_of_marks hw (f := []) (hm ▸ pieces_marks h)

theorem IsField.of_marks_eq {f g : Field} (hm : marks f = marks g) (h : IsField f) : IsField g :=
  Pieces.of_marks_eq (fun _ ht => .key (.word ht)) hm h

theorem IsKey.of_marks_eq {f g : Field} (hm : marks f = marks g) (h : IsKey f) : IsKey g :=
  Pieces.of_marks_eq (fun _ => .word) hm h

/-! ## Blanks in a text -/

theorem firstToken_of_not_isSpecial {c : Char} (hc : isSpecial c = false) (t : Text) :
    firstToken c t = (.text (c :: t.takeWhile (!isSpecial ·)), t.dropWhile (!isSpecial ·)) := by
  simp only [isSpecial, Bool.or_eq_false_iff, beq_eq_false_iff_ne] at hc
  obtain ⟨⟨⟨⟨⟨⟨h₁, h₂⟩, h₃⟩, h₄⟩, h₅⟩, h₆⟩, h₇⟩ := hc
  rw [firstToken, if_neg h₁, if_neg h₂, if_neg h₃, if_neg h₄, if_neg h₅, if_neg h₆, if_neg h₇]

theorem tokens_of_not_isSpecial {c : Char} (hc : isSpecial c = false) (t : Text) :
    tokens (c :: t) =
      .text (c :: t.takeWhile (!isSpecial ·)) :: tokens (t.dropWhile (!isSpecial ·)) := by
  rw [tokens, firstToken_of_not_isSpecial hc]

theorem marks_tokens_dropWhile (t : Text) :
    marks (tokens (t.dropWhile (!isSpecial ·))) = marks (tokens t) := by
  cases t with
  | nil => rfl
  | cons c t =>
    cases hc : isSpecial c with
    | true => rw [List.dropWhile_cons_of_neg (by simp [hc])]
    | false =>
      rw [List.dropWhile_cons_of_pos (by simp [hc]), tokens_of_not_isSpecial hc,
        marks_cons_of_isWord (.text _)]

theorem marks_tokens_append_of_not_isSpecial {lead : Text} (h : ∀ c ∈ lead, isSpecial c = false)
    (t : Text) : marks (tokens (lead ++ t)) = marks (tokens t) := by
  induction lead with
  | nil => rfl
  | cons c lead ih =>
    rw [List.forall_mem_cons] at h
    rw [List.cons_append, tokens_of_not_isSpecial h.1, marks_cons_of_isWord (.text _),
      marks_tokens_dropWhile, ih h.2]

theorem isSpecial_of_isSpace {c : Char} (h : isSpace c = true) : isSpecial c = false := by
  by_contra hs
  rw [Bool.not_eq_false] at hs
  simp only [isSpecial, Bool.or_eq_true, beq_iff_eq] at hs
  rcases hs with (((((rfl | rfl) | rfl) | rfl) | rfl) | rfl) | rfl <;> cases h

theorem isNoMarkerChar_of_isSpace {c : Char} (h : isSpace c = true) : IsNoMarkerChar c :=
  isNoMarkerChar_of_all h (by decide)

/-- A blank behind a text goes on with its last word or is a word by itself. -/
theorem marks_tokens_append_blank {d : Char} (hd : isSpace d = true) (t : Text) :
    marks (tokens (t ++ [d])) = marks (tokens t) := by
  have hds := isSpecial_of_isSpace hd
  fun_induction tokens t with
  | case1 =>
    rw [List.nil_append, tokens_of_not_isSpecial hds, marks_cons_of_isWord (.text _),
      List.dropWhile_nil, tokens]
  | case2 c t ih =>
    cases hc : isSpecial c with
    | true =>
      have hclose : ¬ nowikiClosing <:+: [d] := fun h => by
        have := h.length_le
        simp [nowikiClosing, nowikiName] at this
      have hp : isPaired d = false := by
        simp only [isSpecial, Bool.or_eq_false_iff] at hds
        simp [isPaired, hds]
      have hf : firstToken c (t ++ [d]) = ((firstToken c t).1, (firstToken c t).2 ++ [d]) :=
        firstToken_append (isNoMarkerChar_of_isSpace hd) (.inl hc) (fun h => by simp [hp] at h)
          fun _ => hclose
      rw [List.cons_append, tokens, hf, marks_cons, ih, ← marks_cons]
    | false =>
      -- the word goes up to the first special character, or takes up the blank
      rw [firstToken_of_not_isSpecial hc] at ih ⊢
      rw [marks_cons_of_isWord (.text _), ← ih]
      have ht : c :: t ++ [d] = (c :: t.takeWhile (!isSpecial ·)) ++
          (t.dropWhile (!isSpecial ·) ++ [d]) := by
        simp [← List.append_assoc, List.takeWhile_append_dropWhile]
      rw [ht]
      refine marks_tokens_append_of_not_isSpecial (List.forall_mem_cons.mpr ⟨hc, fun e he => ?_⟩) _
      simpa using List.mem_takeWhile_imp he

theorem marks_tokens_append_blanks {trail : Text} (h : ∀ c ∈ trail, isSpace c = true) (t : Text) :
    marks (tokens (t ++ trail)) = marks (tokens t) := by
  induction trail generalizing t with
  | nil => rw [List.append_nil]
  | cons d trail ih =>
    rw [List.forall_mem_cons] at h
    rw [List.append_cons, ih h.2, marks_tokens_append_blank h.1]

theorem marks_tokens_trim (t : Text) : marks (tokens t.trim) = marks (tokens t) := by
  obtain ⟨lead, trail, ht, hlead, htrail⟩ := Text.exists_trim t
  calc marks (tokens t.trim)
      = marks (tokens (lead ++ t.trim)) :=
        (marks_tokens_append_of_not_isSpecial
          (fun c hc => isSpecial_of_isSpace (hlead c hc)) t.trim).symm
    _ = marks (tokens (lead ++ t.trim ++ trail)) := (marks_tokens_append_blanks htrail _).symm
    _ = marks (tokens t) := by rw [← ht]

end WikiAxioms.Markup
