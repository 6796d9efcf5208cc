import Mathlib.Data.List.Chain
import WikiAxioms.Proofs.Markup.FirstOffence
import WikiAxioms.Proofs.Markup.Slices

/-!
# Tokens tile a text

The places of the tokens cover a text without gaps, each place holding the source of its token, and
no token could have been longer: what stops one is the next character, or, for a nowiki marker that
is left open, that no closing marker follows.
-/

namespace WikiAxioms.Markup

/-- Ranges that are not empty and follow each other without gaps from `first` to `last`. -/
inductive Tiles : (first last : Nat) → List (Nat × Nat) → Prop
  | done (last : Nat) : Tiles last last []
  | step {first next last : Nat} {ranges : List (Nat × Nat)} : first < next →
      Tiles next last ranges → Tiles first last ((first, next) :: ranges)

/-- Two tokens side by side are not one token cut in two: plain text is not followed by more of it,
and a lone brace not by its like. -/
def Token.MayPrecede : Token → Token → Prop
  | .text _, next => ∀ s, next ≠ .text s
  | .loneOpening, next => next ≠ .loneOpening ∧ next ≠ .opening
  | .loneClosing, next => next ≠ .loneClosing ∧ next ≠ .closing
  | _, _ => True

/-- A token ends before a character that it could have gone on with only if it were another. -/
def Token.StopsBefore : Token → Char → Prop
  | .text _, d => isSpecial d = true
  | .loneOpening, d => d ≠ '\x7b'
  | .loneClosing, d => d ≠ '\x7d'
  | _, _ => True

/-! ## Places -/

theorem size_pos_firstToken (c : Char) (t : Text) : 0 < (firstToken c t).1.size := by
  obtain ⟨s, hs, -⟩ := exists_source_firstToken c t
  rw [Token.size, hs, Text.byteLength_cons]
  exact Nat.add_pos_left c.utf8Size_pos _

/-- No token is empty. -/
theorem size_pos_of_mem_tokens {t : Text} {k : Token} (h : k ∈ tokens t) : 0 < k.size := by
  fun_induction tokens t with
  | case1 => cases h
  | case2 c t ih =>
    rcases List.mem_cons.mp h with rfl | h
    · exact size_pos_firstToken c t
    · exact ih h

/-- Tokens that are not empty tile what they were read from. -/
theorem tiles_place {ts : List Token} (h : ∀ k ∈ ts, 0 < k.size) (start : Nat) :
    Tiles start (start + sizeOfTokens ts) ((place start ts).map Prod.snd) := by
  induction ts generalizing start with
  | nil => exact .done start
  | cons k ts ih =>
    rw [List.forall_mem_cons] at h
    rw [place, List.map_cons, sizeOfTokens_cons, ← Nat.add_assoc]
    exact .step (Nat.lt_add_of_pos_right h.1) (ih h.2 (start + k.size))

theorem map_fst_place (start : Nat) (ts : List Token) : (place start ts).map Prod.fst = ts := by
  induction ts generalizing start with
  | nil => rfl
  | cons k ts ih => rw [place, List.map_cons, ih]

/-- A token is placed behind the tokens in front of it. -/
theorem exists_of_mem_place {start first last : Nat} {ts : List Token} {k : Token}
    (h : (k, first, last) ∈ place start ts) : ∃ lead rest, ts = lead ++ [k] ++ rest ∧
      first = start + sizeOfTokens lead ∧ last = start + sizeOfTokens (lead ++ [k]) := by
  induction ts generalizing start with
  | nil => cases h
  | cons k' ts ih =>
    rcases List.mem_cons.mp h with h | h
    · cases h
      exact ⟨[], ts, rfl, rfl, rfl⟩
    · obtain ⟨lead, rest, rfl, rfl, rfl⟩ := ih h
      exact ⟨k' :: lead, rest, rfl, by simp [Nat.add_assoc], by simp [Nat.add_assoc]⟩

/-- At the place of a token stands its source. -/
theorem slice?_of_mem_place {t : Text} {k : Token} {first last : Nat}
    (h : (k, first, last) ∈ place 0 (tokens t)) : t.slice? first last = some k.source := by
  obtain ⟨lead, rest, hts, rfl, rfl⟩ := exists_of_mem_place h
  have hs := Text.slice?_append (sources lead) (sources [k]) (sources rest)
  rw [← eq_sources_of_tokens hts, ← sources_append, ← sizeOfTokens_eq_byteLength,
    ← sizeOfTokens_eq_byteLength] at hs
  simpa [sources] using hs

/-! ## Longest tokens -/

theorem stopsBefore_pairedToken {c : Char} {two one : Token} (h₂ : ∀ d, two.StopsBefore d)
    (h₁ : ∀ d, d ≠ c → one.StopsBefore d) (t : Text) :
    ∀ d ∈ (pairedToken c two one t).2.head?, (pairedToken c two one t).1.StopsBefore d := by
  intro d hd
  cases t with
  | nil => cases hd
  | cons e t =>
    by_cases he : e = c
    · rw [pairedToken, if_pos he]
      exact h₂ d
    · rw [pairedToken, if_neg he] at hd ⊢
      exact h₁ d (Option.some.inj hd ▸ he)

theorem stopsBefore_angleToken (t : Text) (d : Char) : (angleToken t).1.StopsBefore d := by
  unfold angleToken
  split
  · trivial
  · split <;> trivial

/-- What follows the first token could not have been part of it. -/
theorem stopsBefore_firstToken (c : Char) (t : Text) :
    ∀ d ∈ (firstToken c t).2.head?, (firstToken c t).1.StopsBefore d := by
  unfold firstToken
  split_ifs with h₁ h₂ h₃ h₄ h₅ h₆ h₇
  · subst h₁
    exact stopsBefore_pairedToken (by intros; trivial) (by intro _ hd; exact hd) t
  · subst h₂
    exact stopsBefore_pairedToken (by intros; trivial) (by intro _ hd; exact hd) t
  · exact fun _ _ => trivial
  · exact fun _ _ => trivial
  · exact stopsBefore_pairedToken (by intros; trivial) (by intros; trivial) t
  · exact stopsBefore_pairedToken (by intros; trivial) (by intros; trivial) t
  · exact fun d _ => stopsBefore_angleToken t d
  · intro d hd
    have hn := List.head?_dropWhile_not (fun c => !isSpecial c) t
    rw [Option.mem_def.mp hd] at hn
    have hs : isSpecial d = true := by simpa using hn
    exact hs

/-- The first character of a token tells that it does not go on with the token before it. -/
theorem mayPrecede_of_stopsBefore {k next : Token} {d : Char} {s : Text} (hk : k.StopsBefore d)
    (hnext : next.IsLexeme) (hs : next.source = d :: s) : k.MayPrecede next := by
  cases k with
  | text _ =>
    rintro s' rfl
    obtain rfl : s' = d :: s := hs
    have hd := hnext d (List.mem_cons_self ..)
    rw [hk] at hd
    cases hd
  | loneOpening | loneClosing =>
    constructor <;> rintro rfl <;> exact hk (List.cons.inj hs).1.symm
  | _ => trivial

theorem isChain_tokens (t : Text) : (tokens t).IsChain Token.MayPrecede := by
  fun_induction tokens t with
  | case1 => exact .nil
  | case2 c t ih =>
    refine List.isChain_cons.mpr ⟨fun next hnext => ?_, ih⟩
    cases hr : (firstToken c t).2 with
    | nil =>
      rw [hr, tokens] at hnext
      cases hnext
    | cons d r =>
      rw [hr, tokens] at hnext
      obtain rfl := Option.some.inj hnext
      obtain ⟨s, hs, -⟩ := exists_source_firstToken d r
      exact mayPrecede_of_stopsBefore (stopsBefore_firstToken c t d (by rw [hr]; rfl))
        (isLexeme_firstToken d r) hs

/-- Tokens lose nothing of a text and are as long as can be. -/
theorem tokens_tile (t : Text) :
    let placed := place 0 (tokens t)
    placed.map Prod.fst = tokens t ∧ Tiles 0 t.byteLength (placed.map Prod.snd) ∧
      (∀ k first last, (k, first, last) ∈ placed → t.slice? first last = some k.source) ∧
      sources (tokens t) = t ∧
      (∀ s, .text s ∈ tokens t → s ≠ [] ∧
        ∀ c ∈ ['\x7b', '\x7d', '|', '=', '[', ']', '<'], c ∉ s) ∧
      (tokens t).IsChain Token.MayPrecede ∧
      (∀ body, .nowiki body ∈ tokens t → ¬ nowikiClosing <:+: body) ∧
      ∀ lead rest, tokens t = lead ++ .char nowikiOpening :: rest →
        ¬ nowikiClosing <:+: sources rest := by
  intro placed
  refine ⟨map_fst_place 0 _, ?_, fun k first last => slice?_of_mem_place, sources_tokens t, ?_,
    isChain_tokens t, fun body => not_isInfix_of_nowiki, fun lead rest => not_isInfix_of_char⟩
  · have htiles := tiles_place (fun k => size_pos_of_mem_tokens (t := t)) 0
    rwa [Nat.zero_add, sizeOfTokens_tokens] at htiles
  · intro s hs
    refine ⟨?_, fun c hc hcs => ?_⟩
    · rintro rfl
      exact absurd (size_pos_of_mem_tokens hs) (Nat.lt_irrefl 0)
    · have hplain : isSpecial c = false := isLexeme_of_mem_tokens hs c hcs
      have hspecial : ∀ c ∈ ['\x7b', '\x7d', '|', '=', '[', ']', '<'], isSpecial c = true :=
        List.all_eq_true.mp (by decide)
      rw [hspecial c hc] at hplain
      cases hplain

end WikiAxioms.Markup
