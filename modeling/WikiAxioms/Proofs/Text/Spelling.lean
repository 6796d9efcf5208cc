import WikiAxioms.Proofs.Text.Runs

/-!
# Words and what stands between them

The runs of a text are said here without reading it: the text is made of them and of separators,
and between two of them a separator stands. However words are separated, they are found again, and
in no text is anything else found.
-/

namespace WikiAxioms.Text

variable {p : Char → Bool}

/-- One or more characters that are no separators. -/
def IsRun (p : Char → Bool) (w : Text) : Prop := w ≠ [] ∧ ∀ c ∈ w, p c = false

/-- The text consists of the words in order, with separators around them and at least one between
two of them. -/
inductive IsSpelling (p : Char → Bool) : List Text → Text → Prop
  | nil {s : Text} : (∀ c ∈ s, p c = true) → IsSpelling p [] s
  | cons {s w t : Text} {ws : List Text} : (∀ c ∈ s, p c = true) → IsSpelling p ws t →
      (ws ≠ [] → ∃ c r, t = c :: r ∧ p c = true) → IsSpelling p (w :: ws) (s ++ w ++ t)

/-- The words are the maximal runs of characters in the text that are no separators. -/
def AreRuns (p : Char → Bool) (t : Text) (ws : List Text) : Prop :=
  IsSpelling p ws t ∧ ∀ w ∈ ws, IsRun p w

/-- Separators may be put in front of a spelling. -/
theorem IsSpelling.append_separators {ws : List Text} {s t : Text} (h : IsSpelling p ws t)
    (hs : ∀ c ∈ s, p c = true) : IsSpelling p ws (s ++ t) := by
  cases h with
  | nil ht => exact .nil (List.forall_mem_append.mpr ⟨hs, ht⟩)
  | cons hs' ht hn =>
    rw [← List.append_assoc, ← List.append_assoc]
    exact .cons (List.forall_mem_append.mpr ⟨hs, hs'⟩) ht hn

/-- A word is its own spelling. -/
theorem isSpelling_singleton (w : Text) : IsSpelling p [w] w := by
  have hn : IsSpelling p [] [] := .nil (by simp)
  have hs := IsSpelling.cons (s := []) (w := w) (by simp) hn (by simp)
  simpa using hs

/-- A run that nothing or a separator follows is the first one. -/
theorem runs_append_of_head? {w t : Text} (hw : IsRun p w)
    (ht : ∀ c, t.head? = some c → p c = true) : runs p (w ++ t) = w :: runs p t := by
  cases t with
  | nil =>
    have hr : runsFrom p [] (w ++ []) = runsFrom p w [] := runsFrom_append_word hw.2 []
    rw [runs, hr, runsFrom, if_neg hw.1]
    rfl
  | cons c t =>
    have hc : ∀ d ∈ [c], p d = true := by simpa using ht c rfl
    have hr := runs_append_cons hw.2 hw.1 hc (by simp) t
    rw [List.append_assoc] at hr
    rw [show w ++ c :: t = w ++ ([c] ++ t) from rfl, hr]
    exact congrArg _ (runsFrom_append_separators hc t).symm

/-- Words are found again, whatever separators they are spelled with. -/
theorem runs_of_isSpelling {ws : List Text} {t : Text} (h : IsSpelling p ws t)
    (hw : ∀ w ∈ ws, IsRun p w) : runs p t = ws := by
  induction h with
  | @nil s hs =>
    have hr := runsFrom_append_separators hs []
    rwa [List.append_nil] at hr
  | @cons s w t ws hs ht hn ih =>
    rw [List.forall_mem_cons] at hw
    have hhead : ∀ c, t.head? = some c → p c = true := by
      intro c hc
      by_cases hnil : ws = []
      · subst hnil
        cases ht with
        | nil ht => exact ht c (List.mem_of_mem_head? hc)
      · obtain ⟨d, r, rfl, hd⟩ := hn hnil
        obtain rfl := Option.some.inj hc
        exact hd
    rw [List.append_assoc, runs, runsFrom_append_separators hs, ← runs,
      runs_append_of_head? hw.1 hhead, ih hw.2]

theorem areRuns_runsFrom {current : Text} (hc : ∀ c ∈ current, p c = false) (t : Text) :
    AreRuns p (current ++ t) (runsFrom p current t) := by
  induction t generalizing current with
  | nil =>
    rw [List.append_nil, runsFrom]
    by_cases hn : current = []
    · rw [if_pos hn, hn]
      exact ⟨.nil (by simp), by simp⟩
    · rw [if_neg hn]
      exact ⟨isSpelling_singleton current, by simpa [IsRun, hn] using hc⟩
  | cons c t ih =>
    have hrest : AreRuns p t (runsFrom p [] t) := ih (by simp)
    rw [runsFrom]
    by_cases hp : p c = true
    · have hs : IsSpelling p (runsFrom p [] t) (c :: t) :=
        hrest.1.append_separators (s := [c]) (by simpa using hp)
      rw [if_pos hp]
      by_cases hn : current = []
      · rw [if_pos hn, hn]
        exact ⟨hs, hrest.2⟩
      · rw [if_neg hn]
        exact ⟨.cons (s := []) (by simp) hs fun _ => ⟨c, t, rfl, hp⟩,
          List.forall_mem_cons.mpr ⟨⟨hn, hc⟩, hrest.2⟩⟩
    · have hcur : ∀ d ∈ current ++ [c], p d = false := by
        simpa [or_imp, forall_and, hp] using hc
      rw [if_neg hp]
      simpa using ih hcur

/-- What is found in a text are its maximal runs, and nothing else is. -/
theorem areRuns_iff {t : Text} {ws : List Text} : AreRuns p t ws ↔ runs p t = ws := by
  refine ⟨fun h => runs_of_isSpelling h.1 h.2, ?_⟩
  rintro rfl
  have hr : ∀ c ∈ ([] : Text), p c = false := by simp
  exact areRuns_runsFrom hr t

/-- Words with one separator between them. -/
theorem isSpelling_join {ws : List Text} {c : Char} (hc : p c = true) :
    IsSpelling p ws (join [c] ws) := by
  induction ws with
  | nil => exact .nil (by simp [join])
  | cons w ws ih =>
    by_cases hn : ws = []
    · simpa [hn, join] using isSpelling_singleton w
    · have hs := IsSpelling.cons (s := []) (w := w) (by simp)
        (ih.append_separators (s := [c]) (by simpa using hc)) fun _ => ⟨c, _, rfl, hc⟩
      rw [join, List.intercalate_cons_of_ne_nil hn, List.append_assoc]
      exact hs

end WikiAxioms.Text
