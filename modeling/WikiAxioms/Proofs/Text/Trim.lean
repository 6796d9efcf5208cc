import Mathlib.Data.List.DropRight
import WikiAxioms.Text.Basic

/-!
# White space at the ends of a text

A text is trimmed when neither its first nor its last character is white space. Trimming yields a
trimmed text, changes no trimmed text, and leaves nothing exactly when the text is blank.
-/

namespace WikiAxioms.Text

theorem trimEnd_eq_rdropWhile (t : Text) : trimEnd t = t.rdropWhile isSpace := rfl

theorem trimEnd_isPrefix (t : Text) : trimEnd t <+: t := List.rdropWhile_prefix isSpace t

theorem trimStart_suffix (t : Text) : trimStart t <:+ t := List.dropWhile_suffix isSpace

/-- Nothing is left exactly of blank texts. -/
theorem trim_eq_nil_iff (t : Text) : t.trim = [] ↔ t.isBlank = true := by
  rw [trim, trimEnd_eq_rdropWhile, List.rdropWhile_eq_nil_iff, isBlank, List.all_eq_true]
  constructor
  · intro h c hc
    by_cases hs : isSpace c = true
    · exact hs
    · -- a character that is no white space survives the first cut
      have hm : c ∈ t.takeWhile isSpace ++ t.dropWhile isSpace := by
        rwa [List.takeWhile_append_dropWhile]
      rcases List.mem_append.mp hm with hm | hm
      · exact absurd (List.mem_takeWhile_imp hm) hs
      · exact h c hm
  · intro h c hc
    exact h c ((trimStart_suffix t).subset hc)

/-- Only white space is taken away. -/
theorem exists_trim (t : Text) : ∃ lead trail, t = lead ++ t.trim ++ trail ∧
    (∀ c ∈ lead, isSpace c = true) ∧ ∀ c ∈ trail, isSpace c = true := by
  refine ⟨t.takeWhile isSpace, (trimStart t).rtakeWhile isSpace, ?_,
    fun _ => List.mem_takeWhile_imp, fun _ => List.mem_rtakeWhile_imp⟩
  rw [trim, trimEnd_eq_rdropWhile, List.append_assoc, List.rdropWhile_append_rtakeWhile, trimStart,
    List.takeWhile_append_dropWhile]

theorem trimStart_eq_self_iff (t : Text) :
    trimStart t = t ↔ ∀ c, t.head? = some c → isSpace c = false := by
  cases t with
  | nil => simp [trimStart]
  | cons a t =>
    by_cases h : isSpace a = true
    · have hl := List.length_dropWhile_le isSpace t
      constructor
      · intro he
        have := congrArg List.length he
        simp only [trimStart, List.dropWhile_cons, h, if_true, List.length_cons] at this
        omega
      · intro hc
        simp [h] at hc
    · simp [trimStart, h]

theorem trimEnd_eq_self_iff (t : Text) :
    trimEnd t = t ↔ ∀ c, t.getLast? = some c → isSpace c = false := by
  have h := trimStart_eq_self_iff t.reverse
  rw [List.head?_reverse] at h
  rw [← h, trimEnd, ← List.reverse_eq_iff]
  exact Iff.rfl

/-- A text is left as it is when no white space stands at its ends, and only then. -/
theorem trim_eq_self_iff (t : Text) :
    t.trim = t ↔ (∀ c, t.head? = some c → isSpace c = false) ∧
      ∀ c, t.getLast? = some c → isSpace c = false := by
  rw [← trimStart_eq_self_iff, ← trimEnd_eq_self_iff]
  constructor
  · intro h
    have hp := (trimEnd_isPrefix (trimStart t)).length_le
    have hs := trimStart_suffix t
    have hl := congrArg List.length h
    rw [trim] at hl
    have he : trimStart t = t := hs.eq_of_length_le (by omega)
    exact ⟨he, by rw [trim, he] at h; exact h⟩
  · intro h
    rw [trim, h.1, h.2]

theorem head?_trim (t : Text) {c : Char} (h : t.trim.head? = some c) : isSpace c = false := by
  obtain ⟨r, hr⟩ := List.head?_eq_some_iff.mp h
  obtain ⟨s, hs⟩ := trimEnd_isPrefix (trimStart t)
  have hn := (trimStart_eq_self_iff (trimStart t)).mp (List.dropWhile_idempotent isSpace t)
  rw [← trim, hr] at hs
  exact hn c (by rw [← hs]; rfl)

theorem getLast?_trim (t : Text) {c : Char} (h : t.trim.getLast? = some c) :
    isSpace c = false :=
  (trimEnd_eq_self_iff t.trim).mp (List.rdropWhile_idempotent isSpace _) c h

@[simp] theorem trim_trim (t : Text) : t.trim.trim = t.trim :=
  (trim_eq_self_iff t.trim).mpr ⟨fun _ => head?_trim t, fun _ => getLast?_trim t⟩

/-- Texts without white space are trimmed. -/
theorem trim_of_no_space {t : Text} (h : ∀ c ∈ t, isSpace c = false) : t.trim = t :=
  (trim_eq_self_iff t).mpr
    ⟨fun c hc => h c (List.mem_of_mem_head? hc), fun c hc => h c (List.mem_of_getLast? hc)⟩

/-- White space around a trimmed text is what trimming takes away. -/
theorem trim_between {lead t trail : Text} (hl : lead.isBlank = true) (ht : t.trim = t)
    (hn : t ≠ []) (hr : trail.isBlank = true) : (lead ++ t ++ trail).trim = t := by
  rw [isBlank, List.all_eq_true] at hl hr
  rw [trim_eq_self_iff] at ht
  have hstart : trimStart (t ++ trail) = t ++ trail := by
    rw [trimStart_eq_self_iff, List.head?_append_of_ne_nil _ hn]
    exact ht.1
  have hend : trimEnd (t ++ trail) = trimEnd t := by
    rw [trimEnd, List.reverse_append,
      List.dropWhile_append_of_pos fun c hc => hr c (List.mem_reverse.mp hc), trimEnd]
  rw [trim, List.append_assoc, trimStart, List.dropWhile_append_of_pos hl, ← trimStart, hstart,
    hend]
  exact (trimEnd_eq_self_iff t).mpr ht.2

/-- A trimmed text is blank only if it is empty. -/
theorem isBlank_of_trim_eq_self {t : Text} (h : t.trim = t) (hn : t ≠ []) :
    t.isBlank = false := by
  by_contra hb
  have := (trim_eq_nil_iff t).mpr (by simpa using hb)
  exact hn (h ▸ this)

/-- The text `u` is the text `t` without the white space around it. -/
structure TrimsTo (t u : Text) : Prop where
  cut : ∃ lead trail, t = lead ++ u ++ trail ∧ (∀ c ∈ lead, isSpace c = true) ∧
    ∀ c ∈ trail, isSpace c = true
  first : ∀ c ∈ u.head?, isSpace c = false
  last : ∀ c ∈ u.getLast?, isSpace c = false

theorem trimsTo_trim (t : Text) : TrimsTo t t.trim :=
  ⟨exists_trim t, fun _ => head?_trim t, fun _ => getLast?_trim t⟩

/-- There is one way to take all white space away at the ends of a text. -/
theorem trimsTo_iff (t u : Text) : TrimsTo t u ↔ u = t.trim := by
  constructor
  · rintro ⟨⟨lead, trail, rfl, hlead, htrail⟩, hfirst, hlast⟩
    have hl : lead.isBlank = true := List.all_eq_true.mpr hlead
    have hr : trail.isBlank = true := List.all_eq_true.mpr htrail
    by_cases hn : u = []
    · subst hn
      refine ((trim_eq_nil_iff _).mpr ?_).symm
      simp only [isBlank, List.append_nil, List.all_append, Bool.and_eq_true] at hl hr ⊢
      exact ⟨hl, hr⟩
    · exact (trim_between hl ((trim_eq_self_iff u).mpr ⟨hfirst, hlast⟩) hn hr).symm
  · rintro rfl
    exact trimsTo_trim t

end WikiAxioms.Text
