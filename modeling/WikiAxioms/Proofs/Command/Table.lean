import Mathlib.Data.List.Infix
import WikiAxioms.Command.Source
import WikiAxioms.Proofs.Text.Search

/-!
# Tables

What the lines of a table are, said without reference to how they are read: a line is idle, or it is
an entry, or it is neither. Every line is judged for itself, so the entries of a table are those of
its lines, in their order.
-/

namespace WikiAxioms

theorem Text.lines_eq_splitOn (t : Text) : t.lines = t.splitOn '\n' := by
  induction t with
  | nil => rfl
  | cons c t ih =>
    rw [List.splitOn_cons_eq_if_modifyHead, ← ih, lines]
    have hn : lines t ≠ [] := by
      rw [ih]
      exact List.splitOn_ne_nil '\n' t
    by_cases hc : c = '\n'
    · rw [if_pos hc, if_pos (by simpa using hc)]
    · rw [if_neg hc, if_neg (by simpa using hc)]
      cases hl : lines t with
      | nil => exact absurd hl hn
      | cons l ls => rfl

namespace Command

/-- A line that is blank or a comment. -/
def IsIdle (l : Text) : Prop := l.trim = [] ∨ ∃ remark, l.trim = '#' :: remark

/-- A line that names a property before its first tab; the declaration is what follows the tab. -/
def IsEntryLine (l : Text) (p : PropertyId) (d : Text) : Prop :=
  ¬ IsIdle l ∧ ∃ name, l.trim = name ++ '\t' :: d ∧ '\t' ∉ name ∧
    EntityId.ofText .property name = .ok p

/-- The entries of lines, each for itself and in order. -/
inductive Tabulates : List Text → List (PropertyId × Text) → Prop
  | nil : Tabulates [] []
  | entry {l : Text} {p : PropertyId} {d : Text} {ls : List Text} {es : List (PropertyId × Text)} :
      IsEntryLine l p d → Tabulates ls es → Tabulates (l :: ls) ((p, d) :: es)
  | other {l : Text} {ls : List Text} {es : List (PropertyId × Text)} :
      (∀ p d, ¬ IsEntryLine l p d) → Tabulates ls es → Tabulates (l :: ls) es

/-- Lists of which one arises from the other when elements with a property are deleted and
inserted. -/
inductive Edited {α : Type} (P : α → Prop) : List α → List α → Prop
  | nil : Edited P [] []
  | keep (a : α) {as bs : List α} : Edited P as bs → Edited P (a :: as) (a :: bs)
  | delete {a : α} {as bs : List α} : P a → Edited P as bs → Edited P (a :: as) bs
  | insert {b : α} {as bs : List α} : P b → Edited P as bs → Edited P as (b :: bs)

/-- What elements come to is not changed by those that come to nothing. -/
theorem Edited.filterMap_eq {α β : Type} {P : α → Prop} {f : α → Option β}
    (hf : ∀ a, P a → f a = none) {as bs : List α} (h : Edited P as bs) :
    as.filterMap f = bs.filterMap f := by
  induction h with
  | nil => rfl
  | keep a _ ih => rw [List.filterMap_cons, List.filterMap_cons, ih]
  | delete ha _ ih => rw [List.filterMap_cons_none (hf _ ha), ih]
  | insert hb _ ih => rw [List.filterMap_cons_none (hf _ hb), ih]

theorem cutAt_tab_eq_some_iff {t name d : Text} :
    t.cutAt ['\t'] = some (name, d) ↔ t = name ++ '\t' :: d ∧ '\t' ∉ name := by
  rw [Text.cutAt_eq_some_iff List.not_mem_nil, List.singleton_infix_iff, List.append_assoc]
  rfl

/-- A line that is not idle is judged by what stands before its first tab. -/
theorem ofText_of_not_isIdle {l : Text} (h : ¬ IsIdle l) :
    Line.ofText l = match l.trim.cutAt ['\t'] with
      | none => .malformed
      | some (name, d) =>
        match EntityId.ofText .property name with
        | .ok p => .entry p d
        | .error _ => .malformed := by
  rw [IsIdle, not_or] at h
  rw [Line.ofText]
  generalize l.trim = t at h
  fun_cases Line.ofTrimmed t with
  | case1 => exact absurd rfl h.1
  | case2 remark => exact absurd ⟨remark, rfl⟩ h.2
  | case3 _ _ _ hc => rw [hc]
  | case4 _ _ _ _ _ hc p hp => simp only [hc, hp]
  | case5 _ _ _ _ _ hc fault hp => simp only [hc, hp]

theorem ofText_eq_skipped_iff {l : Text} : Line.ofText l = .skipped ↔ IsIdle l := by
  constructor
  · intro h
    by_contra hl
    rw [ofText_of_not_isIdle hl] at h
    split at h
    · cases h
    · split at h <;> cases h
  · rintro (h | ⟨remark, h⟩) <;> rw [Line.ofText, h, Line.ofTrimmed]

theorem ofText_eq_entry_iff {l : Text} {p : PropertyId} {d : Text} :
    Line.ofText l = .entry p d ↔ IsEntryLine l p d := by
  by_cases hl : IsIdle l
  · simp [ofText_eq_skipped_iff.mpr hl, IsEntryLine, hl]
  · rw [ofText_of_not_isIdle hl, IsEntryLine]
    constructor
    · intro h
      split at h
      · cases h
      · next name d' hc =>
        split at h
        · next hp =>
          cases h
          obtain ⟨ht, hn⟩ := cutAt_tab_eq_some_iff.mp hc
          exact ⟨hl, name, ht, hn, hp⟩
        · cases h
    · rintro ⟨-, name, ht, hn, hp⟩
      rw [cutAt_tab_eq_some_iff.mpr ⟨ht, hn⟩]
      simp only [hp]

/-- A line is malformed if and only if it is neither idle nor an entry. -/
theorem isMalformed_ofText_eq_false_iff {l : Text} :
    (Line.ofText l).isMalformed = false ↔ IsIdle l ∨ ∃ p d, IsEntryLine l p d := by
  rw [← ofText_eq_skipped_iff]
  simp only [← ofText_eq_entry_iff]
  cases Line.ofText l <;> simp [Line.isMalformed]

theorem malformedLines_eq_zero_iff {t : Text} : malformedLines t = 0 ↔
    ∀ l ∈ t.splitOn '\n', IsIdle l ∨ ∃ p d, IsEntryLine l p d := by
  rw [malformedLines, tableLines, Text.lines_eq_splitOn, List.countP_eq_zero, List.forall_mem_map]
  simp only [Bool.not_eq_true, isMalformed_ofText_eq_false_iff]

/-- A source entry without its origin. -/
def SourceEntry.pair (e : SourceEntry) : PropertyId × Text := (e.property, e.declaration)

/-- The entry of a line, if it is one. -/
def entryOf? (l : Text) : Option (PropertyId × Text) :=
  match Line.ofText l with
  | .entry p d => some (p, d)
  | _ => none

theorem entryOf?_eq_some_iff {l : Text} {p : PropertyId} {d : Text} :
    entryOf? l = some (p, d) ↔ IsEntryLine l p d := by
  rw [← ofText_eq_entry_iff, entryOf?]
  cases Line.ofText l <;> simp

theorem entryOf?_eq_none_iff {l : Text} : entryOf? l = none ↔ ∀ p d, ¬ IsEntryLine l p d := by
  rw [Option.eq_none_iff_forall_ne_some, Prod.forall]
  simp only [Ne, entryOf?_eq_some_iff]

/-- Where lines stand does not matter to what they declare. -/
theorem map_pair_entriesFrom (n : Nat) (ls : List Text) :
    (entriesFrom n (ls.map Line.ofText)).map SourceEntry.pair = ls.filterMap entryOf? := by
  induction ls generalizing n with
  | nil => rfl
  | cons l ls ih =>
    have hl : (Line.entry? n (Line.ofText l)).toList.map SourceEntry.pair =
        (entryOf? l).toList := by
      rw [entryOf?]
      cases Line.ofText l <;> rfl
    rw [List.map_cons, entriesFrom, List.map_append, hl, ih]
    cases he : entryOf? l <;> simp [he]

theorem tabulates_iff {ls : List Text} {es : List (PropertyId × Text)} :
    Tabulates ls es ↔ es = ls.filterMap entryOf? := by
  constructor
  · intro h
    induction h with
    | nil => rfl
    | entry h _ ih =>
      rw [List.filterMap_cons_some (entryOf?_eq_some_iff.mpr h), ih]
    | other h _ ih => rw [List.filterMap_cons_none (entryOf?_eq_none_iff.mpr h), ih]
  · rintro rfl
    induction ls with
    | nil => exact .nil
    | cons l ls ih =>
      cases he : entryOf? l with
      | none =>
        rw [List.filterMap_cons_none he]
        exact .other (entryOf?_eq_none_iff.mp he) ih
      | some e =>
        rw [List.filterMap_cons_some he]
        exact .entry (entryOf?_eq_some_iff.mp he) ih

theorem map_pair_tableEntries (t : Text) :
    (tableEntries t).map SourceEntry.pair = (t.splitOn '\n').filterMap entryOf? := by
  rw [tableEntries, tableLines, map_pair_entriesFrom, Text.lines_eq_splitOn]

end Command

end WikiAxioms
