import WikiAxioms.Catalog.Name
import WikiAxioms.Proofs.Markup.Scanning
import WikiAxioms.Proofs.Text.Spelling
import WikiAxioms.Proofs.Text.UpperCase

/-!
# Spellings of names

A name is spelled by separators, the mark of constraints if need be, and words. All spellings of
the same words are looked up as the title of the words, and a title that bears no mark itself is
looked up as it stands.
-/

namespace WikiAxioms.Catalog

open WikiAxioms.Markup

/-- The words with one space between them. -/
def phrase (ws : List Text) : Text := [' '].intercalate ws

/-- The phrase with its first character in upper case. -/
def title (ws : List Text) : Text :=
  match phrase ws with
  | [] => []
  | c :: t => upperCase c ++ t

theorem title_eq_capitalized (ws : List Text) : title ws = capitalized (phrase ws) := by
  rw [title]
  cases phrase ws <;> rfl

/-- A name that spells the words, between any separators, with or without the mark of constraints
in front of the first word. -/
inductive IsNameOf (ws : List Text) : Text → Prop
  | plain {name : Text} : Text.AreRuns isNameSeparator name ws → IsNameOf ws name
  | marked {lead mark rest : Text} : (∀ c ∈ lead, isNameSeparator c = true) →
      Text.sameLetters mark constraintMark = true → Text.AreRuns isNameSeparator rest ws →
      IsNameOf ws (lead ++ mark ++ rest)

theorem isSpace_eq_false {c : Char} (h : isNameSeparator c = false) : isSpace c = false := by
  rw [isNameSeparator, Bool.or_eq_false_iff] at h
  exact h.2

variable {ws : List Text}

theorem spaced_of_areRuns {name : Text} (h : Text.AreRuns isNameSeparator name ws) :
    spaced name = phrase ws := by
  rw [spaced, Text.areRuns_iff.mp h, Text.join, phrase]

theorem phrase_cons_of_ne_nil {w : Text} (h : ws ≠ []) :
    phrase (w :: ws) = w ++ ' ' :: phrase ws := by
  rw [phrase, List.intercalate_cons_of_ne_nil h, List.append_assoc]
  rfl

/-- Words with spaces between them are trimmed. -/
theorem trimStart_phrase (hw : ∀ w ∈ ws, Text.IsRun isNameSeparator w) :
    Text.trimStart (phrase ws) = phrase ws := by
  have ht := Text.trim_join [' '] fun w hm =>
    ⟨(hw w hm).1, Text.trim_of_no_space fun c hc => isSpace_eq_false ((hw w hm).2 c hc)⟩
  exact (Text.trimStart_eq_self_iff _).mpr ((Text.trim_eq_self_iff _).mp ht).1

/-! ## The mark -/

section Mark

variable {mark : Text}

/-- No letter of the mark separates words. -/
theorem isRun_mark (h : Text.sameLetters mark constraintMark = true) :
    Text.IsRun isNameSeparator mark := by
  refine ⟨?_, fun c hc => ?_⟩
  · rintro rfl
    cases length_mark h
  · have hc' : c ≠ '_' := by
      rintro rfl
      exact absurd (toLower_mem_of_mem_mark h hc) (by decide)
    simp [isNameSeparator, hc', isSpace_of_mem_mark h hc]

/-- The mark and the white space behind it are taken off. -/
theorem unmarked_append {gap t : Text} (h : Text.sameLetters mark constraintMark = true)
    (hg : ∀ c ∈ gap, isSpace c = true) (ht : Text.trimStart t = t) :
    unmarked (mark ++ gap ++ t) = t := by
  have hl := length_mark h
  have hm : hasConstraintMark (mark ++ gap ++ t) = true := by
    rw [hasConstraintMark, ← hl, List.append_assoc, List.take_left]
    exact h
  rw [unmarked, if_pos hm, ← hl, List.append_assoc, List.drop_left, Text.trimStart,
    List.dropWhile_append_of_pos hg]
  exact ht

/-- In front of the words the mark is part of the first word or a word of its own. -/
theorem spaced_marked {lead rest : Text} (hl : ∀ c ∈ lead, isNameSeparator c = true)
    (h : Text.sameLetters mark constraintMark = true)
    (hr : Text.AreRuns isNameSeparator rest ws) :
    ∃ gap, spaced (lead ++ mark ++ rest) = mark ++ gap ++ phrase ws ∧
      ∀ c ∈ gap, isSpace c = true := by
  have hrun := isRun_mark h
  obtain ⟨hs, hw⟩ := hr
  cases hs with
  | nil hs =>
    have hrs : Text.AreRuns isNameSeparator (lead ++ mark ++ rest) [mark] :=
      ⟨.cons hl (.nil hs) (by simp), by simpa using hrun⟩
    exact ⟨[], by rw [spaced_of_areRuns hrs]; simp [phrase], by simp⟩
  | @cons s w t ws hs ht hn =>
    rw [List.forall_mem_cons] at hw
    -- whether separators stand behind the mark decides about the first word
    cases s with
    | nil =>
      have hword : Text.IsRun isNameSeparator (mark ++ w) :=
        ⟨by simp [hrun.1], List.forall_mem_append.mpr ⟨hrun.2, hw.1.2⟩⟩
      have hrs : Text.AreRuns isNameSeparator (lead ++ (mark ++ w) ++ t) ((mark ++ w) :: ws) :=
        ⟨.cons hl ht hn, List.forall_mem_cons.mpr ⟨hword, hw.2⟩⟩
      refine ⟨[], ?_, by simp⟩
      rw [show lead ++ mark ++ ([] ++ w ++ t) = lead ++ (mark ++ w) ++ t by simp,
        spaced_of_areRuns hrs, List.append_nil]
      exact Text.join_append_cons [' '] mark w ws
    | cons c s =>
      have hwords : Text.IsSpelling isNameSeparator (w :: ws) (c :: s ++ w ++ t) :=
        .cons hs ht hn
      have hrs : Text.AreRuns isNameSeparator (lead ++ mark ++ (c :: s ++ w ++ t))
          (mark :: w :: ws) :=
        ⟨.cons hl hwords fun _ => ⟨c, s ++ w ++ t, rfl, hs c (by simp)⟩,
          List.forall_mem_cons.mpr ⟨hrun, List.forall_mem_cons.mpr hw⟩⟩
      refine ⟨[' '], ?_, List.forall_mem_singleton.mpr rfl⟩
      rw [spaced_of_areRuns hrs, phrase_cons_of_ne_nil (List.cons_ne_nil w ws), List.append_assoc]
      rfl

end Mark

/-- A name that bears no mark is looked up as the title of its words. -/
theorem normalizeName_plain {name : Text} (h : Text.AreRuns isNameSeparator name ws)
    (hm : hasConstraintMark (phrase ws) = false) : normalizeName name = title ws := by
  rw [normalizeName, spaced_of_areRuns h, unmarked, hm, if_neg Bool.false_ne_true,
    title_eq_capitalized]

/-- A name that bears the mark is looked up as the title of the words behind it. -/
theorem normalizeName_marked {lead mark rest : Text}
    (hl : ∀ c ∈ lead, isNameSeparator c = true)
    (hm : Text.sameLetters mark constraintMark = true)
    (hr : Text.AreRuns isNameSeparator rest ws) :
    normalizeName (lead ++ mark ++ rest) = title ws := by
  obtain ⟨gap, hs, hg⟩ := spaced_marked hl hm hr
  rw [normalizeName, hs, unmarked_append hm hg (trimStart_phrase hr.2), title_eq_capitalized]

/-- All spellings of words are looked up as their title. -/
theorem normalizeName_of_isNameOf {name : Text} (h : IsNameOf ws name)
    (hm : hasConstraintMark (phrase ws) = false) : normalizeName name = title ws := by
  cases h with
  | plain h => exact normalizeName_plain h hm
  | marked hl hmark hr => exact normalizeName_marked hl hmark hr

example : normalizeName " CONSTRAINT:_ﬂuss\u3000__nr " = "FLuss nr".toList := by decide +kernel

/-! ## Titles -/

/-- What is left of a phrase behind some characters is a phrase, once it is trimmed. -/
theorem exists_phrase_of_suffix (hw : ∀ w ∈ ws, Text.IsRun isNameSeparator w) {back : Text}
    (h : back <:+ phrase ws) :
    ∃ vs, (∀ v ∈ vs, Text.IsRun isNameSeparator v) ∧ Text.trimStart back = phrase vs := by
  induction ws generalizing back with
  | nil => exact ⟨[], by simp, by rw [List.suffix_nil.mp h]; rfl⟩
  | cons w ws ih =>
    rw [List.forall_mem_cons] at hw
    obtain ⟨hrun, hw⟩ := hw
    -- the words from the first one on, if something is left of it, or from the second one on
    have hpart : ∀ v, v <:+ w → v ≠ [] → ∀ u ∈ v :: ws, Text.IsRun isNameSeparator u :=
      fun v hv hn => List.forall_mem_cons.mpr ⟨⟨hn, fun c hc => hrun.2 c (hv.subset hc)⟩, hw⟩
    have hrest : Text.trimStart (' ' :: phrase ws) = phrase ws := trimStart_phrase hw
    by_cases hnil : ws = []
    · subst hnil
      by_cases hn : back = []
      · exact ⟨[], by simp, by rw [hn]; rfl⟩
      · have hb : phrase [back] = back := by simp [phrase]
        have hv := hpart back (by simpa [phrase] using h) hn
        exact ⟨[back], hv, by rw [← trimStart_phrase hv, hb]⟩
    · obtain ⟨front, h⟩ := h
      rw [phrase_cons_of_ne_nil hnil, List.append_eq_append_iff] at h
      rcases h with ⟨a, rfl, rfl⟩ | ⟨a, rfl, ha⟩
      · by_cases hn : a = []
        · exact ⟨ws, hw, by rw [hn]; exact hrest⟩
        · have hv := hpart a (List.suffix_append front a) hn
          exact ⟨a :: ws, hv, by rw [← phrase_cons_of_ne_nil hnil, trimStart_phrase hv]⟩
      · cases a with
        | nil =>
          obtain rfl : ' ' :: phrase ws = back := ha
          exact ⟨ws, hw, hrest⟩
        | cons d a => exact ih hw ⟨a, (List.cons.inj ha).2.symm⟩

/-- Whatever a name is, it is looked up as the title of some words. -/
theorem exists_normalizeName_eq_title (name : Text) :
    ∃ ws, (∀ w ∈ ws, Text.IsRun isNameSeparator w) ∧ normalizeName name = title ws := by
  have hr := Text.areRuns_iff (p := isNameSeparator) (t := name).mpr rfl
  by_cases hm : hasConstraintMark (spaced name) = true
  · obtain ⟨vs, hvs, hv⟩ := exists_phrase_of_suffix hr.2
      (List.drop_suffix constraintMark.length (spaced name))
    exact ⟨vs, hvs, by rw [normalizeName, unmarked, if_pos hm, hv, title_eq_capitalized]⟩
  · exact ⟨_, hr.2, by rw [normalizeName, unmarked, if_neg hm, title_eq_capitalized]; rfl⟩

theorem isRun_capitalized {w : Text} (h : Text.IsRun isNameSeparator w) :
    Text.IsRun isNameSeparator (capitalized w) := by
  cases w with
  | nil => exact absurd rfl h.1
  | cons c t =>
    have hc := List.forall_mem_cons.mp h.2
    refine ⟨by simp [capitalized, upperCase_ne_nil], List.forall_mem_append.mpr ⟨?_, hc.2⟩⟩
    intro d hd
    rcases eq_or_of_mem_upperCase hd with rfl | ⟨hs, hu⟩
    · exact hc.1
    · simp [isNameSeparator, hs, hu]

@[simp] theorem capitalized_capitalized (t : Text) :
    capitalized (capitalized t) = capitalized t := by
  cases t with
  | nil => rfl
  | cons c t =>
    rw [capitalized]
    cases hu : upperCase c with
    | nil => exact absurd hu (upperCase_ne_nil c)
    | cons d u =>
      have hd : upperCase d = [d] := upperCase_of_head?_upperCase (by rw [hu]; rfl)
      rw [List.cons_append, capitalized, hd]
      rfl

/-- A title is a phrase of words itself. -/
theorem exists_title_eq_phrase (hw : ∀ w ∈ ws, Text.IsRun isNameSeparator w) :
    ∃ vs, (∀ v ∈ vs, Text.IsRun isNameSeparator v) ∧ title ws = phrase vs := by
  cases ws with
  | nil => exact ⟨[], by simp, rfl⟩
  | cons w ws =>
    rw [List.forall_mem_cons] at hw
    refine ⟨capitalized w :: ws, List.forall_mem_cons.mpr ⟨isRun_capitalized hw.1, hw.2⟩, ?_⟩
    cases w with
    | nil => exact absurd rfl hw.1.1
    | cons c t =>
      have hj := Text.join_append_cons [' '] [c] t ws
      rw [title_eq_capitalized, phrase, show c :: t = [c] ++ t from rfl, ← Text.join, hj]
      exact (Text.join_append_cons [' '] (upperCase c) t ws).symm

/-- What names are looked up as is written with single spaces already. -/
theorem exists_areRuns_normalizeName (name : Text) : ∃ ws,
    Text.AreRuns isNameSeparator (normalizeName name) ws ∧ normalizeName name = phrase ws ∧
      normalizeName name = title ws := by
  obtain ⟨vs, hvs, hv⟩ := exists_normalizeName_eq_title name
  obtain ⟨ws, hws, hw⟩ := exists_title_eq_phrase hvs
  have he : normalizeName name = phrase ws := hv.trans hw
  refine ⟨ws, ⟨?_, hws⟩, he, ?_⟩
  · rw [he]
    exact Text.isSpelling_join (by decide)
  · rw [title_eq_capitalized, ← he, hv, title_eq_capitalized, capitalized_capitalized]

/-- What names are looked up as is looked up as itself, if it bears no mark. -/
theorem normalizeName_normalizeName {name : Text}
    (h : hasConstraintMark (normalizeName name) = false) :
    normalizeName (normalizeName name) = normalizeName name := by
  obtain ⟨ws, hr, hp, ht⟩ := exists_areRuns_normalizeName name
  rw [normalizeName_plain hr (by rwa [← hp]), ht]

/-- Behind the mark, what names are looked up as is looked up as itself. -/
theorem normalizeName_mark_append {mark : Text} (h : Text.sameLetters mark constraintMark = true)
    (name : Text) : normalizeName (mark ++ normalizeName name) = normalizeName name := by
  obtain ⟨ws, hr, -, ht⟩ := exists_areRuns_normalizeName name
  have hl : ∀ c ∈ ([] : Text), isNameSeparator c = true := by simp
  rw [← List.nil_append mark, normalizeName_marked hl h hr, ht]

end WikiAxioms.Catalog
