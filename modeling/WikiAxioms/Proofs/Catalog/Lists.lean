import WikiAxioms.Proofs.Catalog.Value

/-!
# Lists of entities

A parameter that lists entities is read as a whole or not at all. Its entries are the maximal runs
of characters that separate nothing, so what stands between them is free. An entry may be a link,
and its letter may be a small one. Main statement: the three readers of lists yield one entity for
each entry, in order, or else the first entry that names no entity decides the fault.
-/

namespace WikiAxioms.Catalog

open WikiAxioms.Markup

variable {kind : EntityKind}

/-- What reading a list of entities comes to when these are its entries: all of them or a fault
that holds the whole value. -/
structure IsListResult (key value : Text) (entries : List Text)
    (result : Except BuildFault (List (EntityId kind))) : Prop where
  isOk_iff : (∃ ids, result = .ok ids) ↔
    entries ≠ [] ∧ ∀ entry ∈ entries, ∃ id : EntityId kind, Names entry id
  ok {ids : List (EntityId kind)} : result = .ok ids → List.Forall₂ Names entries ids
  error {fault : BuildFault} : result = .error fault →
    ∃ reason, fault = .invalid key value reason ∧ IsListFault kind entries reason

/-- An entry that is written for the identifier: one of its spellings, as a link or not. -/
def IsEntryOf (entry : Text) (id : EntityId kind) : Prop :=
  ∃ bare, id.IsSpelled bare ∧ (entry = bare ∨ entry = ['[', '['] ++ bare ++ [']', ']'])

theorem exists_forall₂_iff {α β : Type} {R : α → β → Prop} {as : List α} :
    (∃ bs, List.Forall₂ R as bs) ↔ ∀ a ∈ as, ∃ b, R a b := by
  induction as with
  | nil => simp
  | cons a as ih =>
    simp only [List.forall₂_cons_left_iff, List.forall_mem_cons, ← ih]
    constructor
    · rintro ⟨_, b, bs, hb, hbs, -⟩
      exact ⟨⟨b, hb⟩, bs, hbs⟩
    · rintro ⟨⟨b, hb⟩, bs, hbs⟩
      exact ⟨_, b, bs, hb, hbs, rfl⟩

theorem isListResult_mapError {key value : Text} {entries : List Text}
    (hr : Text.AreRuns isListSeparator value entries) :
    IsListResult key value entries ((entitiesOf kind value).mapError (.invalid key value)) where
  isOk_iff := by
    simp only [mapError_eq_ok_iff, entitiesOf_eq_ok_iff_names hr, exists_and_left,
      exists_forall₂_iff]
  ok h := ((entitiesOf_eq_ok_iff_names hr).mp (mapError_eq_ok_iff.mp h)).2
  error {fault} h := by
    cases he : entitiesOf kind value with
    | ok ids =>
      rw [he] at h
      cases h
    | error reason =>
      rw [he] at h
      exact ⟨reason, (Except.error.inj h).symm, (entitiesOf_eq_error_iff hr).mp he⟩

section Written

variable {entry : Text} {id : EntityId kind}

theorem isRun_of_isEntryOf (h : IsEntryOf entry id) : Text.IsRun isListSeparator entry := by
  obtain ⟨bare, ⟨letter, hl, rfl⟩, he⟩ := h
  have hbare : ∀ c ∈ letter :: id.digits, isListSeparator c = false := by
    refine List.forall_mem_cons.mpr ⟨?_, fun c hc => ?_⟩
    · rcases hl with rfl | rfl <;> cases kind <;> decide
    · have hd : c.isDigit = true := List.all_eq_true.mp id.all_isDigit c hc
      have hne : c ≠ ',' := by
        rintro rfl
        cases hd
      simp [isListSeparator, isSpace_of_isDigit hd, hne]
  rcases he with rfl | rfl
  · exact ⟨by simp, hbare⟩
  · refine ⟨by simp, fun c hc => ?_⟩
    rw [List.mem_append, List.mem_append] at hc
    rcases hc with (hc | hc) | hc
    · obtain rfl : c = '[' := by simpa using hc
      rfl
    · exact hbare c hc
    · obtain rfl : c = ']' := by simpa using hc
      rfl

theorem names_of_isEntryOf (h : IsEntryOf entry id) : Names entry id := by
  obtain ⟨bare, hs, rfl | rfl⟩ := h
  · refine ⟨entry, .inr ⟨rfl, fun inner he => ?_⟩, hs⟩
    -- the letter of a kind is no bracket
    obtain ⟨letter, hl, rfl⟩ := hs
    have hb : letter = '[' := (List.cons.inj he).1
    subst hb
    rcases hl with hl | hl <;> cases kind <;> cases hl
  · exact ⟨bare, .inl rfl, hs⟩

end Written

/-- However a list is written, it is read back. -/
theorem entitiesOf_of_isSpelling {value : Text} {entries : List Text} {ids : List (EntityId kind)}
    (hn : ids ≠ []) (he : List.Forall₂ IsEntryOf entries ids)
    (hs : Text.IsSpelling isListSeparator entries value) : entitiesOf kind value = .ok ids := by
  have hr : Text.AreRuns isListSeparator value entries := by
    refine ⟨hs, fun entry hm => ?_⟩
    obtain ⟨id, hid⟩ := exists_forall₂_iff.mp ⟨ids, he⟩ entry hm
    exact isRun_of_isEntryOf hid
  refine (entitiesOf_eq_ok_iff_names hr).mpr ⟨?_, he.imp fun _ _ => names_of_isEntryOf⟩
  rintro rfl
  cases he
  exact hn rfl

theorem isBlank_of_isSpelling {value : Text} {entries : List Text} {ids : List (EntityId kind)}
    (hn : ids ≠ []) (he : List.Forall₂ IsEntryOf entries ids)
    (hs : Text.IsSpelling isListSeparator entries value) : value.isBlank = false := by
  by_contra hb
  have hnil : Text.AreRuns isListSeparator value [] := by
    refine ⟨.nil fun c hc => ?_, by simp⟩
    have hspace := List.all_eq_true.mp (Bool.not_eq_false _ ▸ hb) c hc
    simp [isListSeparator, hspace]
  exact ((entitiesOf_eq_ok_iff_names hnil).mp (entitiesOf_of_isSpelling hn he hs)).1 rfl

section Readers

open ParameterReader

variable {request : Request} {key value : Text} (hv : request.template.get? key = some value)
  (hb : value.isBlank = false) (asked : List Text)

include hv hb

theorem fst_runFrom_items : ((items key).runFrom request asked).1 =
    (entitiesOf .item value).mapError (.invalid key value) := by
  rw [items, parsed, runFrom_bind, required, runFrom_bind, runFrom_look]
  simp [hv, hb, runFrom_accept]

theorem fst_runFrom_optionalItems : ((optionalItems key).runFrom request asked).1 =
    (entitiesOf .item value).mapError (.invalid key value) := by
  rw [optionalItems, runFrom_bind, runFrom_optional, filled?_of_get?_eq_some hv]
  simp [hb, runFrom_accept]

theorem fst_runFrom_propertyList : ((propertyList key).runFrom request asked).1 =
    (entitiesOf .property value).mapError (.invalid key value) := by
  rw [propertyList, runFrom_bind, runFrom_look]
  simp [hv, hb, runFrom_accept]

end Readers

/-- The readers of lists understand a value that is not blank by its entries, the maximal runs of
characters that are neither commas nor white space. And a list of one identifier or more, written
with any such characters between them, is read back. -/
theorem runFrom_listReaders {request : Request} {key value : Text}
    (hv : request.template.get? key = some value) (asked : List Text) :
    (value.isBlank = false → ∃ entries, Text.AreRuns isListSeparator value entries ∧
      IsListResult key value entries ((items key).runFrom request asked).1 ∧
      IsListResult key value entries ((optionalItems key).runFrom request asked).1 ∧
      IsListResult key value entries ((propertyList key).runFrom request asked).1) ∧
    (∀ (ids : List ItemId) (entries : List Text), ids ≠ [] → List.Forall₂ IsEntryOf entries ids →
      Text.IsSpelling isListSeparator entries value →
        ((items key).runFrom request asked).1 = .ok ids ∧
          ((optionalItems key).runFrom request asked).1 = .ok ids) ∧
    ∀ (ids : List PropertyId) (entries : List Text), ids ≠ [] →
      List.Forall₂ IsEntryOf entries ids → Text.IsSpelling isListSeparator entries value →
        ((propertyList key).runFrom request asked).1 = .ok ids := by
  refine ⟨fun hb => ?_, fun ids entries hn he hs => ?_, fun ids entries hn he hs => ?_⟩
  · have hr : Text.AreRuns isListSeparator value (Text.runs isListSeparator value) :=
      Text.areRuns_iff.mpr rfl
    rw [fst_runFrom_items hv hb, fst_runFrom_optionalItems hv hb, fst_runFrom_propertyList hv hb]
    exact ⟨_, hr, isListResult_mapError hr, isListResult_mapError hr, isListResult_mapError hr⟩
  · have hb := isBlank_of_isSpelling hn he hs
    rw [fst_runFrom_items hv hb, fst_runFrom_optionalItems hv hb, entitiesOf_of_isSpelling hn he hs]
    exact ⟨rfl, rfl⟩
  · rw [fst_runFrom_propertyList hv (isBlank_of_isSpelling hn he hs),
      entitiesOf_of_isSpelling hn he hs]
    rfl

/-- A link, a small letter, an entry twice and an ideographic space. -/
theorem runFrom_listReaders_links :
    let value : Text := ", [[p31]]\u3000P7,,[[P7]]"
    let request : Request := ⟨.instanceOf, .withNamed (.ofName "Qualifiers") "list" value⟩
    let entries : List Text := ["[[p31]]", "P7", "[[P7]]"]
    let ids : List PropertyId := [⟨"31", by decide⟩, ⟨"7", by decide⟩, ⟨"7", by decide⟩]
    request.template.get? "list" = some value ∧ value.isBlank = false ∧
      (∃ entries, Text.AreRuns isListSeparator value entries ∧
        IsListResult "list" value entries ((items "list").runFrom request []).1 ∧
        IsListResult "list" value entries ((optionalItems "list").runFrom request []).1 ∧
        IsListResult "list" value entries ((propertyList "list").runFrom request []).1) ∧
      ids ≠ [] ∧ List.Forall₂ IsEntryOf entries ids ∧
      Text.IsSpelling isListSeparator entries value ∧
      ((propertyList "list").runFrom request []).1 = .ok ids := by
  intro value request entries ids
  have hv : request.template.get? "list" = some value := rfl
  have hb : value.isBlank = false := by decide +kernel
  have he : List.Forall₂ IsEntryOf entries ids :=
    .cons ⟨"p31", ⟨'p', .inr rfl, rfl⟩, .inr rfl⟩ <| .cons ⟨"P7", ⟨'P', .inl rfl, rfl⟩, .inl rfl⟩ <|
      .cons ⟨"P7", ⟨'P', .inl rfl, rfl⟩, .inr rfl⟩ .nil
  have hs : Text.IsSpelling isListSeparator entries value :=
    (Text.areRuns_iff.mpr (by decide +kernel)).1
  obtain ⟨hread, -, hlist⟩ := runFrom_listReaders hv []
  exact ⟨hv, hb, hread hb, by simp [ids], he, hs, hlist ids entries (by simp [ids]) he hs⟩

end WikiAxioms.Catalog
