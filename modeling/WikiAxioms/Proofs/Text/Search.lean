import Mathlib.Data.List.Basic
import WikiAxioms.Text.Basic

/-!
# Finding a text in a text

`cutAt` finds the first place where a marker stands, and fails exactly when the marker is no part of
the text. How far a search reads matters when texts are put together: a marker that avoids a
character is found on one side of it.
-/

namespace WikiAxioms.Text

theorem after?_append (lead rest : Text) : (lead ++ rest).after? lead = some rest := by
  induction lead with
  | nil => simp [after?]
  | cons c lead ih => simpa [after?] using ih

theorem before?_eq_some_iff {t tail front : Text} :
    t.before? tail = some front ↔ t = front ++ tail := by
  rw [before?, Option.map_eq_some_iff]
  constructor
  · rintro ⟨rest, hr, rfl⟩
    rw [← List.reverse_inj, eq_of_after? hr]
    simp
  · rintro rfl
    exact ⟨front.reverse, by rw [List.reverse_append, after?_append], List.reverse_reverse front⟩

theorem after?_eq_none_iff {t lead : Text} : t.after? lead = none ↔ ¬ lead <+: t := by
  rw [Option.eq_none_iff_forall_ne_some]
  constructor
  · rintro h ⟨rest, rfl⟩
    exact h rest (after?_append lead rest)
  · intro h rest hr
    exact h ⟨rest, (eq_of_after? hr).symm⟩

/-- A lead without the character `d` ends before it. -/
theorem after?_append_cons {lead : Text} {d : Char} (hd : d ∉ lead) (t rest : Text) :
    (t ++ d :: rest).after? lead = (t.after? lead).map (· ++ d :: rest) := by
  induction lead generalizing t with
  | nil => simp [after?]
  | cons a lead ih =>
    rw [List.mem_cons, not_or] at hd
    cases t with
    | nil => simp [after?, Ne.symm hd.1]
    | cons c t =>
      by_cases hc : a = c
      · simp [after?, hc, ih hd.2]
      · simp [after?, hc]

/-- A part of a text with the character `d` in it stands before or after it, or holds it. -/
theorem isInfix_append_cons {m t rest : Text} {d : Char} (h : m <:+: t ++ d :: rest) :
    m <:+: t ∨ m <:+: d :: rest ∨ d ∈ m.tail := by
  rcases List.infix_append_iff_ne_nil.mp h with h | h | ⟨m₁, m₂, h₁, h₂, rfl, -, hp⟩
  · exact .inl h
  · exact .inr (.inl h)
  · refine .inr (.inr ?_)
    obtain ⟨a, m₁, rfl⟩ := List.exists_cons_of_ne_nil h₁
    obtain ⟨b, m₂, rfl⟩ := List.exists_cons_of_ne_nil h₂
    rw [List.cons_prefix_cons] at hp
    simp [hp.1]

theorem takeWhile_append_cons {p : Char → Bool} {d : Char} (hd : p d = false) (t rest : Text) :
    (t ++ d :: rest).takeWhile p = t.takeWhile p := by
  induction t with
  | nil => simp [hd]
  | cons c t ih => by_cases hc : p c <;> simp [hc, ih]

theorem dropWhile_append_cons {p : Char → Bool} {d : Char} (hd : p d = false) (t rest : Text) :
    (t ++ d :: rest).dropWhile p = t.dropWhile p ++ d :: rest := by
  induction t with
  | nil => simp [hd]
  | cons c t ih => by_cases hc : p c <;> simp [hc, ih]

/-- What stands before and after a character is known if it does not stand in the first part. -/
theorem append_cons_inj {d : Char} {a b r s : Text} (ha : d ∉ a) (hb : d ∉ b)
    (h : a ++ d :: r = b ++ d :: s) : a = b ∧ r = s := by
  induction a generalizing b with
  | nil =>
    cases b with
    | nil => exact ⟨rfl, (List.cons.inj h).2⟩
    | cons c b => exact absurd ((List.cons.inj h).1 ▸ List.mem_cons_self) hb
  | cons c a ih =>
    cases b with
    | nil => exact absurd ((List.cons.inj h).1 ▸ List.mem_cons_self) ha
    | cons c' b =>
      obtain ⟨rfl, ht⟩ := List.cons.inj h
      obtain ⟨rfl, hr⟩ := ih (List.not_mem_of_not_mem_cons ha) (List.not_mem_of_not_mem_cons hb) ht
      exact ⟨rfl, hr⟩

theorem cutAt_eq_none_iff {t marker : Text} : t.cutAt marker = none ↔ ¬ marker <:+: t := by
  induction t with
  | nil => by_cases h : marker = [] <;> simp [cutAt, h]
  | cons c t ih =>
    rw [cutAt, List.infix_cons_iff, not_or, ← after?_eq_none_iff, ← ih]
    cases h : after? (c :: t) marker <;> simp

theorem contains_iff {t marker : Text} : t.contains marker = true ↔ marker <:+: t := by
  rw [contains, Option.isSome_iff_ne_none, Ne, cutAt_eq_none_iff, not_not]

/-- A marker is found where it first stands, if its first character does not recur in it. -/
theorem cutAt_append {a : Char} {tail : Text} (ha : a ∉ tail) {front : Text}
    (h : ¬ a :: tail <:+: front) (rest : Text) :
    (front ++ a :: tail ++ rest).cutAt (a :: tail) = some (front, rest) := by
  induction front with
  | nil =>
    have hf := after?_append (a :: tail) rest
    simp only [List.cons_append] at hf
    simp [cutAt, hf]
  | cons c front ih =>
    rw [List.infix_cons_iff, not_or] at h
    have hn : after? (c :: (front ++ a :: tail ++ rest)) (a :: tail) = none := by
      rw [after?_eq_none_iff]
      intro hp
      rw [List.cons_prefix_cons] at hp
      -- the marker would have to run into its own first character
      have hm := after?_append_cons ha front (tail ++ rest)
      obtain ⟨r, hr⟩ := hp.2
      rw [List.append_assoc, List.cons_append] at hr
      rw [← hr, after?_append] at hm
      obtain ⟨s, hs, -⟩ := Option.map_eq_some_iff.mp hm.symm
      exact h.1 (hp.1 ▸ List.cons_prefix_cons.mpr ⟨rfl, s, (eq_of_after? hs).symm⟩)
    simp only [List.cons_append, cutAt, hn, ih h.2, Option.map_some]

/-- No marker stands before the place where one is found. -/
theorem not_isInfix_of_cutAt {t marker front rest : Text} (hm : marker ≠ [])
    (h : t.cutAt marker = some (front, rest)) : ¬ marker <:+: front := by
  induction t generalizing front with
  | nil => simp [cutAt, hm] at h
  | cons c t ih =>
    rw [cutAt] at h
    split at h
    · cases h
      simpa using hm
    · next hn =>
      obtain ⟨⟨f, r⟩, hp, he⟩ := Option.map_eq_some_iff.mp h
      cases he
      rw [List.infix_cons_iff, not_or]
      refine ⟨fun hc => after?_eq_none_iff.mp hn (hc.trans ?_), ih hp⟩
      rw [eq_of_cutAt hp, List.append_assoc]
      exact List.cons_prefix_cons.mpr ⟨rfl, List.prefix_append f _⟩

theorem cutAt_eq_some_iff {a : Char} {tail : Text} (ha : a ∉ tail) {t front rest : Text} :
    t.cutAt (a :: tail) = some (front, rest) ↔
      t = front ++ a :: tail ++ rest ∧ ¬ a :: tail <:+: front := by
  constructor
  · intro h
    exact ⟨eq_of_cutAt h, not_isInfix_of_cutAt (by simp) h⟩
  · rintro ⟨rfl, h⟩
    exact cutAt_append ha h rest

end WikiAxioms.Text
