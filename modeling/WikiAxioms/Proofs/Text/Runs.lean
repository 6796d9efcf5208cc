import WikiAxioms.Proofs.Text.Trim

/-!
# Texts put together from words

Words joined by separators are found again as the runs of the text, and the text is trimmed if the
words are.
-/

namespace WikiAxioms.Text

variable {p : Char → Bool}

/-- A word at the front adds to the run under way. -/
theorem runsFrom_append_word {current w : Text} (h : ∀ c ∈ w, p c = false) (t : Text) :
    runsFrom p current (w ++ t) = runsFrom p (current ++ w) t := by
  induction w generalizing current with
  | nil => simp
  | cons c w ih =>
    rw [List.forall_mem_cons] at h
    rw [List.cons_append, runsFrom, h.1, if_neg Bool.false_ne_true, ih h.2]
    simp

/-- Separators at the front are no part of any run. -/
theorem runsFrom_append_separators {s : Text} (h : ∀ c ∈ s, p c = true) (t : Text) :
    runsFrom p [] (s ++ t) = runsFrom p [] t := by
  induction s with
  | nil => rfl
  | cons c s ih =>
    rw [List.forall_mem_cons] at h
    rw [List.cons_append, runsFrom, if_pos h.1, if_pos rfl, ih h.2]

/-- A word that separators follow is the first run. -/
theorem runs_append_cons {w s : Text} (hw : ∀ c ∈ w, p c = false) (hn : w ≠ [])
    (hs : ∀ c ∈ s, p c = true) (he : s ≠ []) (t : Text) :
    runs p (w ++ s ++ t) = w :: runs p t := by
  cases s with
  | nil => exact absurd rfl he
  | cons c s =>
    rw [List.forall_mem_cons] at hs
    rw [runs, List.append_assoc, runsFrom_append_word hw, List.nil_append, List.cons_append,
      runsFrom, if_pos hs.1, if_neg hn, runsFrom_append_separators hs.2, runs]

/-- Words that are joined by separators are the runs of the whole. -/
theorem runs_join {ws : List Text} {s : Text} (hw : ∀ w ∈ ws, w ≠ [] ∧ ∀ c ∈ w, p c = false)
    (hs : ∀ c ∈ s, p c = true) (he : s ≠ []) : runs p (join s ws) = ws := by
  induction ws with
  | nil => rfl
  | cons w ws ih =>
    rw [List.forall_mem_cons] at hw
    obtain ⟨⟨hn, hc⟩, hws⟩ := hw
    by_cases h : ws = []
    · have hr : runsFrom p [] (w ++ []) = runsFrom p w [] := runsFrom_append_word hc []
      rw [List.append_nil] at hr
      simp [h, join, runs, hr, runsFrom, hn]
    · rw [join, List.intercalate_cons_of_ne_nil h, runs_append_cons hc hn hs he]
      exact congrArg _ (ih hws)

/-- Two trimmed words and what is between them make a trimmed text. -/
theorem trim_append {a b : Text} (ha : a.trim = a) (hb : b.trim = b) (hna : a ≠ []) (hnb : b ≠ [])
    (s : Text) : (a ++ s ++ b).trim = a ++ s ++ b := by
  rw [trim_eq_self_iff] at ha hb ⊢
  constructor
  · intro c hc
    rw [List.append_assoc, List.head?_append_of_ne_nil _ hna] at hc
    exact ha.1 c hc
  · intro c hc
    rw [List.getLast?_append_of_ne_nil _ hnb] at hc
    exact hb.2 c hc

theorem join_ne_nil {ws : List Text} (s : Text) (hw : ∀ w ∈ ws, w ≠ []) (h : ws ≠ []) :
    join s ws ≠ [] := by
  cases ws with
  | nil => exact absurd rfl h
  | cons w ws =>
    have hn := hw w (by simp)
    by_cases h : ws = []
    · simpa [h, join] using hn
    · rw [join, List.intercalate_cons_of_ne_nil h]
      simp [hn]

/-- Joining trimmed words yields a trimmed text. -/
theorem trim_join {ws : List Text} (s : Text) (hw : ∀ w ∈ ws, w ≠ [] ∧ w.trim = w) :
    (join s ws).trim = join s ws := by
  induction ws with
  | nil => rfl
  | cons w ws ih =>
    rw [List.forall_mem_cons] at hw
    obtain ⟨⟨hn, ht⟩, hws⟩ := hw
    by_cases h : ws = []
    · simpa [h, join] using ht
    · have hj : join s ws ≠ [] := join_ne_nil s (fun w hm => (hws w hm).1) h
      rw [join, List.intercalate_cons_of_ne_nil h]
      exact trim_append ht (ih hws) hn hj s

/-- What stands in front of the first word stands in front of all. -/
theorem join_append_cons (s a w : Text) (ws : List Text) :
    join s ((a ++ w) :: ws) = a ++ join s (w :: ws) := by
  by_cases h : ws = []
  · simp [h, join]
  · simp [join, List.intercalate_cons_of_ne_nil h]

theorem mem_join {ws : List Text} {s : Text} {c : Char} (h : c ∈ join s ws) :
    c ∈ s ∨ ∃ w ∈ ws, c ∈ w := by
  induction ws with
  | nil => simp [join] at h
  | cons w ws ih =>
    by_cases hn : ws = []
    · simp only [hn, join, List.intercalate_singleton] at h
      exact .inr ⟨w, by simp, h⟩
    · rw [join, List.intercalate_cons_of_ne_nil hn, List.mem_append, List.mem_append] at h
      rcases h with (h | h) | h
      · exact .inr ⟨w, by simp, h⟩
      · exact .inl h
      · rcases ih h with h | ⟨v, hv, hc⟩
        · exact .inl h
        · exact .inr ⟨v, List.mem_cons_of_mem w hv, hc⟩

end WikiAxioms.Text
