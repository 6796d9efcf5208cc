import Mathlib.Data.List.TakeWhile
import Mathlib.Tactic.SplitIfs
import WikiAxioms.Markup.Token
import WikiAxioms.Proofs.Text.Search

/-!
# Tokens of texts put together

The tokens of a text do not depend on what follows it, as long as the next character cannot go on
with the last token and ends no nowiki marker that is still open. So a text that is put together
from parts can be cut into tokens part by part. A brace at the end of a text is a token of a brace,
or part of one, so fields without such tokens make no pairs with the braces around them.
-/

namespace WikiAxioms.Markup

/-- Characters that two by two make one token. -/
def isPaired (c : Char) : Bool := c == '\x7b' || c == '\x7d' || c == '[' || c == ']'

theorem pairedToken_append {c d : Char} {t : Text} (h : t = [] → d ≠ c) (two one : Token)
    (rest : Text) : pairedToken c two one (t ++ d :: rest) =
      ((pairedToken c two one t).1, (pairedToken c two one t).2 ++ d :: rest) := by
  cases t with
  | nil => simp [pairedToken, h rfl]
  | cons e t => by_cases he : e = c <;> simp [pairedToken, he]

/-- The character stands in no marker but perhaps at its start. -/
def IsNoMarkerChar (d : Char) : Prop := d ∉ nowikiName ∧ d ∉ nowikiClosing.tail

theorem isNoMarkerChar_of_all {p : Char → Bool} {d : Char} (hd : p d = true)
    (h : (nowikiName ++ nowikiClosing.tail).all (fun c => !p c) = true) : IsNoMarkerChar d := by
  have hn : d ∉ nowikiName ++ nowikiClosing.tail := fun hm => by
    simpa [hd] using List.all_eq_true.mp h d hm
  rwa [List.mem_append, not_or] at hn

theorem isNoMarkerChar_of_isSpecial {d : Char} (hd : isSpecial d = true) : IsNoMarkerChar d :=
  isNoMarkerChar_of_all hd (by decide)

/-- The first place of a closing marker is where its text first stands. -/
theorem cutAt_nowikiClosing_iff {t body rest : Text} :
    Text.cutAt t nowikiClosing = some (body, rest) ↔
      t = body ++ nowikiClosing ++ rest ∧ ¬ nowikiClosing <:+: body :=
  Text.cutAt_eq_some_iff (by decide)

theorem angleToken_append {d : Char} (hd : IsNoMarkerChar d) {t : Text} {rest : Text}
    (hn : (angleToken t).1 = .char nowikiOpening → ¬ nowikiClosing <:+: d :: rest) :
    angleToken (t ++ d :: rest) = ((angleToken t).1, (angleToken t).2 ++ d :: rest) := by
  have ha := Text.after?_append_cons hd.1 t rest
  cases h : Text.after? t nowikiName with
  | none => simp [angleToken, ha, h]
  | some inner =>
    rw [h, Option.map_some] at ha
    cases hc : Text.cutAt inner nowikiClosing with
    | none =>
      have hi : ¬ nowikiClosing <:+: inner ++ d :: rest := by
        intro hm
        rcases Text.isInfix_append_cons hm with hm | hm | hm
        · exact Text.cutAt_eq_none_iff.mp hc hm
        · exact hn (by simp [angleToken, h, hc]) hm
        · exact hd.2 hm
      simp [angleToken, ha, h, hc, Text.cutAt_eq_none_iff.mpr hi]
    | some parts =>
      obtain ⟨body, after⟩ := parts
      have hb := cutAt_nowikiClosing_iff.mp hc
      have hi : Text.cutAt (inner ++ d :: rest) nowikiClosing =
          some (body, after ++ d :: rest) :=
        cutAt_nowikiClosing_iff.mpr ⟨by simp [hb.1], hb.2⟩
      simp [angleToken, ha, h, hc, hi]

/-- The first token does not grow, unless plain text goes on. -/
theorem firstToken_append {c d : Char} (hd : IsNoMarkerChar d) {t rest : Text}
    (hs : isSpecial c = true ∨ isSpecial d = true) (hp : isPaired d = true → t = [] → d ≠ c)
    (hn : (firstToken c t).1 = .char nowikiOpening → ¬ nowikiClosing <:+: d :: rest) :
    firstToken c (t ++ d :: rest) =
      ((firstToken c t).1, (firstToken c t).2 ++ d :: rest) := by
  have hne : isPaired c = true → t = [] → d ≠ c := fun hc ht hdc => hp (hdc ▸ hc) ht hdc
  unfold firstToken at hn ⊢
  split_ifs at hn ⊢ with h₁ h₂ h₃ h₄ h₅ h₆ h₇
  · exact pairedToken_append (hne (by simp [isPaired, h₁])) _ _ rest
  · exact pairedToken_append (hne (by simp [isPaired, h₂])) _ _ rest
  · rfl
  · rfl
  · exact pairedToken_append (hne (by simp [isPaired, h₅])) _ _ rest
  · exact pairedToken_append (hne (by simp [isPaired, h₆])) _ _ rest
  · exact angleToken_append hd hn
  · have hc : isSpecial c = false := by simp [isSpecial, h₁, h₂, h₃, h₄, h₅, h₆, h₇]
    have hnot : (!isSpecial d) = false := by
      rw [hs.resolve_left (by simp [hc]), Bool.not_true]
    rw [Text.takeWhile_append_cons hnot, Text.dropWhile_append_cons hnot]

/-- The tokens of two texts together are those of the first and those of the second, if the second
starts with a special character that makes no pair with the end of the first, and closes no marker
that the first has left open. -/
theorem tokens_append {d : Char} (hd : isSpecial d = true) {t rest : Text}
    (hp : isPaired d = true → t.getLast? ≠ some d)
    (hn : .char nowikiOpening ∈ tokens t → ¬ nowikiClosing <:+: d :: rest) :
    tokens (t ++ d :: rest) = tokens t ++ tokens (d :: rest) := by
  fun_induction tokens t with
  | case1 => rfl
  | case2 c t ih =>
    have hf : firstToken c (t ++ d :: rest) =
        ((firstToken c t).1, (firstToken c t).2 ++ d :: rest) := by
      refine firstToken_append (isNoMarkerChar_of_isSpecial hd) (.inr hd)
        (fun h ht hdc => hp h (by simp [ht, hdc])) fun he => hn ?_
      exact he ▸ List.mem_cons_self ..
    rw [List.cons_append, tokens, hf, ih ?_ fun h => hn (List.mem_cons_of_mem _ h),
      List.cons_append]
    intro h hl
    refine hp h ?_
    rw [← firstToken_source c t, List.getLast?_append, hl, Option.some_or]

theorem angleToken_nowiki {body : Text} (h : ¬ nowikiClosing <:+: body) (rest : Text) :
    angleToken (nowikiName ++ (body ++ nowikiClosing ++ rest)) = (.nowiki body, rest) := by
  have hc : Text.cutAt (body ++ nowikiClosing ++ rest) nowikiClosing = some (body, rest) :=
    cutAt_nowikiClosing_iff.mpr ⟨rfl, h⟩
  simp only [angleToken, Text.after?_append, hc]

/-- A closing marker ends a nowiki body where it first stands. -/
theorem tokens_nowiki {body : Text} (h : ¬ nowikiClosing <:+: body) (rest : Text) :
    tokens (nowikiOpening ++ body ++ nowikiClosing ++ rest) = .nowiki body :: tokens rest := by
  have ht : nowikiOpening ++ body ++ nowikiClosing ++ rest =
      '<' :: (nowikiName ++ (body ++ nowikiClosing ++ rest)) := by
    simp [nowikiOpening]
  have hf : firstToken '<' (nowikiName ++ (body ++ nowikiClosing ++ rest)) =
      (.nowiki body, rest) := by
    rw [firstToken]
    simpa using angleToken_nowiki h rest
  rw [ht, tokens, hf]

theorem tokens_pipe (t : Text) : tokens ('|' :: t) = .pipe :: tokens t := by
  rw [tokens]; rfl

theorem tokens_equals (t : Text) : tokens ('=' :: t) = .equals :: tokens t := by
  rw [tokens]; rfl

theorem tokens_opening (t : Text) : tokens ('\x7b' :: '\x7b' :: t) = .opening :: tokens t := by
  rw [tokens]; rfl

theorem tokens_closing (t : Text) : tokens ('\x7d' :: '\x7d' :: t) = .closing :: tokens t := by
  rw [tokens]; rfl

/-- Every token of a text was read from a part of it. -/
theorem source_isInfix_of_mem_tokens {t : Text} {k : Token} (h : k ∈ tokens t) :
    k.source <:+: t := by
  obtain ⟨front, back, hfb⟩ := List.append_of_mem h
  refine ⟨sources front, sources back, ?_⟩
  have hs := sources_tokens t
  rw [hfb] at hs
  simpa [sources] using hs

/-- Without markers, the text of a field is what it was read from. -/
theorem flatMap_content {f : List Token} (h : ∀ body, Token.nowiki body ∉ f) :
    f.flatMap Token.content = sources f := by
  refine List.flatMap_congr fun k hk => ?_
  cases k with
  | nowiki body => exact absurd hk (h body)
  | _ => rfl

theorem contents_tokens {t : Text} (h : ∀ body, Token.nowiki body ∉ tokens t) :
    (tokens t).flatMap Token.content = t :=
  (flatMap_content h).trans (sources_tokens t)

/-! ## Braces -/

def Token.isBrace : Token → Bool
  | .opening | .closing | .loneOpening | .loneClosing => true
  | _ => false

theorem fst_pairedToken (c : Char) (two one : Token) (t : Text) :
    (pairedToken c two one t).1 = two ∨ (pairedToken c two one t).1 = one := by
  cases t with
  | nil => exact .inr rfl
  | cons d t => by_cases h : d = c <;> simp [pairedToken, h]

theorem getLast?_angleToken (t : Text) : (angleToken t).1.source.getLast? ≠ some '\x7d' := by
  unfold angleToken
  split
  · simp [Token.source]
  · split
    · rw [Token.source, List.getLast?_append]
      simp [nowikiClosing, nowikiName]
    · simp [Token.source, nowikiOpening, nowikiName]

/-- Only a token of a brace ends with a closing brace. -/
theorem isBrace_firstToken {c : Char} {t : Text}
    (h : (firstToken c t).1.source.getLast? = some '\x7d') :
    (firstToken c t).1.isBrace = true := by
  unfold firstToken at h ⊢
  split_ifs at h ⊢ with h₁ h₂ h₃ h₄ h₅ h₆ h₇
  · rcases fst_pairedToken c .opening .loneOpening t with hp | hp <;> rw [hp] <;> rfl
  · rcases fst_pairedToken c .closing .loneClosing t with hp | hp <;> rw [hp] <;> rfl
  · exact absurd h (by simp [Token.source])
  · exact absurd h (by simp [Token.source])
  · rcases fst_pairedToken c .linkOpening (.char "[") t with hp | hp <;> rw [hp] at h <;>
      exact absurd h (by decide)
  · rcases fst_pairedToken c .linkClosing (.char "]") t with hp | hp <;> rw [hp] at h <;>
      exact absurd h (by decide)
  · exact absurd h (getLast?_angleToken t)
  · -- a run of plain text has no brace in it
    rcases List.mem_cons.mp (List.mem_of_getLast? h) with hc | hm
    · exact absurd hc.symm h₂
    · exact absurd (List.mem_takeWhile_imp hm) (by decide)

theorem getLast?_ne_of_noBrace {t : Text} (h : ∀ k ∈ tokens t, k.isBrace = false) :
    t.getLast? ≠ some '\x7d' := by
  intro hl
  fun_induction tokens t with
  | case1 => cases hl
  | case2 c t ih =>
    rw [List.forall_mem_cons] at h
    rw [← firstToken_source c t, List.getLast?_append] at hl
    cases hr : (firstToken c t).2.getLast? with
    | none =>
      rw [hr, Option.none_or] at hl
      rw [isBrace_firstToken hl] at h
      cases h.1
    | some d =>
      rw [hr, Option.some_or] at hl
      exact ih h.2 (hr.trans hl)

/-! ## What tokens can be -/

/-- What a token of a text can be: plain text has no special character, and few texts are
characters that open nothing. -/
def Token.IsLexeme : Token → Prop
  | .text s => ∀ c ∈ s, isSpecial c = false
  | .char s => s = ['['] ∨ s = [']'] ∨ s = ['<'] ∨ s = nowikiOpening
  | _ => True

theorem isLexeme_pairedToken {two one : Token} (h₂ : two.IsLexeme) (h₁ : one.IsLexeme) (c : Char)
    (t : Text) : (pairedToken c two one t).1.IsLexeme := by
  rcases fst_pairedToken c two one t with h | h <;> rw [h]
  · exact h₂
  · exact h₁

theorem isLexeme_angleToken (t : Text) : (angleToken t).1.IsLexeme := by
  unfold angleToken
  split
  · exact .inr (.inr (.inl rfl))
  · split
    · trivial
    · exact .inr (.inr (.inr rfl))

theorem isLexeme_firstToken (c : Char) (t : Text) : (firstToken c t).1.IsLexeme := by
  unfold firstToken
  split_ifs with h₁ h₂ h₃ h₄ h₅ h₆ h₇
  · exact isLexeme_pairedToken (by trivial) (by trivial) c t
  · exact isLexeme_pairedToken (by trivial) (by trivial) c t
  · trivial
  · trivial
  · exact isLexeme_pairedToken (by trivial) (by simp [Token.IsLexeme]) c t
  · exact isLexeme_pairedToken (by trivial) (by simp [Token.IsLexeme]) c t
  · exact isLexeme_angleToken t
  · refine List.forall_mem_cons.mpr ⟨?_, fun d hd => ?_⟩
    · simp [isSpecial, h₁, h₂, h₃, h₄, h₅, h₆, h₇]
    · simpa using List.mem_takeWhile_imp hd

theorem isLexeme_of_mem_tokens {t : Text} {k : Token} (h : k ∈ tokens t) : k.IsLexeme := by
  fun_induction tokens t with
  | case1 => cases h
  | case2 c t ih =>
    rcases List.mem_cons.mp h with rfl | h
    · exact isLexeme_firstToken c t
    · exact ih h

end WikiAxioms.Markup
