import WikiAxioms.Proofs.Markup.Lexing

/-!
# Parts of a text that tokens were read from

Each token is the longest possible one, but it does not need to see what follows it to be read: cut
behind a token, a text has the same tokens up to there. So the part of a text that some of its
tokens were read from has just these tokens.
-/

namespace WikiAxioms.Markup

/-! ## A text cut behind its first token -/

theorem pairedToken_cut {c : Char} {two one k : Token} {s r r' : Text}
    (h : pairedToken c two one (s ++ r ++ r') = (k, r ++ r')) :
    pairedToken c two one (s ++ r) = (k, r) := by
  cases s with
  | nil =>
    rw [List.nil_append] at h
    cases r with
    | nil =>
      cases r' with
      | nil => simpa [pairedToken] using h
      | cons d r' =>
        by_cases hd : d = c
        · simp [pairedToken, hd] at h
        · simp [pairedToken, hd] at h
          simp [pairedToken, h]
    | cons d r =>
      by_cases hd : d = c
      · simp [pairedToken, hd] at h
      · simp [pairedToken, hd] at h
        simp [pairedToken, hd, h]
  | cons d s =>
    by_cases hd : d = c
    · simp [pairedToken, hd] at h
      simp [pairedToken, hd, h]
    · simp [pairedToken, hd] at h
      have hl := congrArg List.length h.2
      simp at hl
      omega

theorem angleToken_cut {k : Token} {s r r' : Text} (h : angleToken (s ++ r ++ r') = (k, r ++ r')) :
    angleToken (s ++ r) = (k, r) := by
  rw [angleToken] at h
  cases ha : Text.after? (s ++ r ++ r') nowikiName with
  | none =>
    rw [ha] at h
    obtain ⟨rfl, hs⟩ := Prod.mk.inj h
    obtain rfl : s = [] := by simpa using hs
    have hr : Text.after? r nowikiName = none := by
      rw [Text.after?_eq_none_iff] at ha ⊢
      exact fun hp => ha (hp.trans (List.prefix_append r r'))
    simp [angleToken, hr]
  | some inner =>
    have hi := Text.eq_of_after? ha
    cases hc : Text.cutAt inner nowikiClosing with
    | none =>
      simp only [ha, hc] at h
      obtain ⟨rfl, rfl⟩ := Prod.mk.inj h
      obtain rfl : s = nowikiName := by simpa using hi
      have hr : Text.cutAt r nowikiClosing = none := by
        rw [Text.cutAt_eq_none_iff] at hc ⊢
        exact fun hm => hc (hm.trans (List.prefix_append r r').isInfix)
      simp [angleToken, Text.after?_append, hr]
    | some parts =>
      obtain ⟨body, rest⟩ := parts
      simp only [ha, hc] at h
      obtain ⟨rfl, rfl⟩ := Prod.mk.inj h
      obtain ⟨rfl, hb⟩ := cutAt_nowikiClosing_iff.mp hc
      obtain rfl : s = nowikiName ++ (body ++ nowikiClosing) := by
        simpa [← List.append_assoc] using hi
      simpa using angleToken_nowiki hb r

/-- The first run of plain text ends where it ends in the whole text. -/
theorem takeWhile_cut {p : Char → Bool} {s r r' : Text}
    (h : (s ++ r ++ r').dropWhile p = r ++ r') :
    (s ++ r).takeWhile p = (s ++ r ++ r').takeWhile p ∧ (s ++ r).dropWhile p = r := by
  have ht : (s ++ r ++ r').takeWhile p = s := by
    have hs := List.takeWhile_append_dropWhile (p := p) (l := s ++ r ++ r')
    rw [h] at hs
    simpa [← List.append_assoc] using hs
  have hp : ∀ c ∈ s, p c = true := fun c hc => List.mem_takeWhile_imp (ht ▸ hc)
  have hr : r.takeWhile p = [] ∧ r.dropWhile p = r := by
    cases r with
    | nil => exact ⟨rfl, rfl⟩
    | cons d r =>
      have hd : p d = false := by
        have hn := List.head?_dropWhile_not p (s ++ d :: r ++ r')
        rwa [h] at hn
      simp [hd]
  rw [ht, List.takeWhile_append_of_pos hp, List.dropWhile_append_of_pos hp, hr.1, hr.2,
    List.append_nil]
  exact ⟨rfl, rfl⟩

theorem firstToken_cut {c : Char} {k : Token} {s r r' : Text}
    (h : firstToken c (s ++ r ++ r') = (k, r ++ r')) : firstToken c (s ++ r) = (k, r) := by
  unfold firstToken at h ⊢
  split_ifs at h ⊢ with h₁ h₂ h₃ h₄ h₅ h₆ h₇
  · exact pairedToken_cut h
  · exact pairedToken_cut h
  · simpa using h
  · simpa using h
  · exact pairedToken_cut h
  · exact pairedToken_cut h
  · exact angleToken_cut h
  · obtain ⟨rfl, hr⟩ := Prod.mk.inj h
    obtain ⟨ht, hd⟩ := takeWhile_cut hr
    rw [ht, hd]

/-! ## Slices -/

theorem exists_source_firstToken (c : Char) (t : Text) :
    ∃ s, (firstToken c t).1.source = c :: s ∧ t = s ++ (firstToken c t).2 := by
  have hs := firstToken_source c t
  cases hk : (firstToken c t).1.source with
  | nil =>
    have hl := firstToken_length c t
    rw [hk, List.nil_append] at hs
    rw [hs, List.length_cons] at hl
    omega
  | cons d s =>
    rw [hk, List.cons_append] at hs
    obtain ⟨rfl, ht⟩ := List.cons.inj hs
    exact ⟨s, rfl, ht.symm⟩

theorem tokens_sources_front {t : Text} {f g : List Token} (h : tokens t = f ++ g) :
    tokens (sources f) = f := by
  induction f generalizing t with
  | nil => simp [sources, tokens]
  | cons k f ih =>
    cases t with
    | nil => simp [tokens] at h
    | cons c t =>
      rw [tokens, List.cons_append] at h
      obtain ⟨rfl, hr⟩ := List.cons.inj h
      have hrest : (firstToken c t).2 = sources f ++ sources g := by
        rw [← sources_append, ← hr, sources_tokens]
      obtain ⟨s, hs, ht⟩ := exists_source_firstToken c t
      rw [hrest, ← List.append_assoc] at ht
      have hc : firstToken c (s ++ sources f) = ((firstToken c t).1, sources f) :=
        firstToken_cut (by rw [← ht, ← hrest])
      rw [sources, List.flatMap_cons, hs, ← sources, List.cons_append, tokens, hc, ih hr]

theorem tokens_sources_back {t : Text} {f g : List Token} (h : tokens t = f ++ g) :
    tokens (sources g) = g := by
  induction f generalizing t with
  | nil =>
    rw [List.nil_append] at h
    rw [← h, sources_tokens]
  | cons k f ih =>
    cases t with
    | nil => simp [tokens] at h
    | cons c t =>
      rw [tokens] at h
      exact ih (List.cons.inj h).2

/-- The part of a text that tokens were read from has these tokens. -/
theorem tokens_sources {t : Text} {f : List Token} (h : f <:+: tokens t) :
    tokens (sources f) = f := by
  obtain ⟨front, back, hfb⟩ := h
  rw [List.append_assoc] at hfb
  exact tokens_sources_front (tokens_sources_back hfb.symm)

theorem sources_isInfix {t : Text} {f : List Token} (h : f <:+: tokens t) : sources f <:+: t := by
  obtain ⟨front, back, hfb⟩ := h
  refine ⟨sources front, sources back, ?_⟩
  rw [← sources_append, ← sources_append, hfb, sources_tokens]

/-- No closing marker stands behind an opening one that is left open. -/
theorem not_isInfix_of_char {t : Text} {f g : List Token}
    (h : tokens t = f ++ .char nowikiOpening :: g) : ¬ nowikiClosing <:+: sources g := by
  intro hm
  obtain ⟨⟨body, rest⟩, hc⟩ := Option.isSome_iff_exists.mp (Text.contains_iff.mpr hm)
  obtain ⟨hs, hb⟩ := cutAt_nowikiClosing_iff.mp hc
  have ht := tokens_nowiki hb rest
  have hk := tokens_sources_back h
  rw [sources, List.flatMap_cons, ← sources, Token.source, hs, ← List.append_assoc,
    ← List.append_assoc, ht] at hk
  cases (List.cons.inj hk).1

/-- A nowiki marker is closed by the first closing one. -/
theorem not_isInfix_of_nowiki {t body : Text} (h : .nowiki body ∈ tokens t) :
    ¬ nowikiClosing <:+: body := by
  intro hm
  obtain ⟨⟨first, rest⟩, hc⟩ := Option.isSome_iff_exists.mp (Text.contains_iff.mpr hm)
  obtain ⟨hbody, hfirst⟩ := cutAt_nowikiClosing_iff.mp hc
  obtain ⟨front, back, hts⟩ := List.append_of_mem h
  have ht : tokens (sources [.nowiki body]) = [.nowiki body] :=
    tokens_sources ⟨front, back, by rw [hts, List.append_assoc, List.singleton_append]⟩
  have hs : sources [.nowiki body] =
      nowikiOpening ++ first ++ nowikiClosing ++ (rest ++ nowikiClosing) := by
    simp [sources, Token.source, hbody]
  rw [hs, tokens_nowiki hfirst] at ht
  cases (List.cons.inj ht).1
  have hl := congrArg List.length hbody
  simp [nowikiClosing] at hl

end WikiAxioms.Markup
