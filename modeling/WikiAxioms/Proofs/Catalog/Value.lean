import WikiAxioms.Proofs.Catalog.Reading
import WikiAxioms.Proofs.Catalog.Standard
import WikiAxioms.Proofs.Decimal.Reading
import WikiAxioms.Proofs.Entity
import WikiAxioms.Proofs.Text.Search
import WikiAxioms.Proofs.Text.Spelling
import WikiAxioms.Proofs.Text.Trim

/-!
# What values mean

For every sort of parameter there is a relation between the text of a value and what it means: the
thing that it writes, or the reason why it writes none. The relations do not say how a value is
taken apart; that what the readers yield is what the value means stands beside each of them.
-/

namespace WikiAxioms.Catalog

variable {kind : EntityKind}

theorem mapError_eq_error_iff {ε δ α : Type} {x : Except ε α} {f : ε → δ} {fault : δ} :
    x.mapError f = .error fault ↔ ∃ e, x = .error e ∧ fault = f e := by
  cases x <;> simp [Except.mapError, eq_comm]

/-! ## Entities -/

/-- What is left of an entry without the brackets of a link. They are dropped if both are there. -/
def Unlinks (entry bare : Text) : Prop :=
  entry = ['[', '['] ++ bare ++ [']', ']'] ∨
    bare = entry ∧ ∀ inner, entry ≠ ['[', '['] ++ inner ++ [']', ']']

/-- What is left of a value that may be a link, without the white space around the link and inside
of it. -/
def StripsTo (value bare : Text) : Prop :=
  ∃ entry inner, Text.TrimsTo value entry ∧ Unlinks entry inner ∧ Text.TrimsTo inner bare

/-- The value writes the identifier, or it writes none of the kind, for the given reason. -/
def MeansEntity (value : Text) : Except Reason (EntityId kind) → Prop
  | .ok id => ∃ bare, StripsTo value bare ∧ id.IsSpelled bare
  | .error reason => ∃ bare, StripsTo value bare ∧ (∀ id : EntityId kind, ¬ id.IsSpelled bare) ∧
      reason = .entity (if bare = [] then .empty kind else .malformed kind bare)

theorem unlinks_iff {entry bare : Text} :
    Unlinks entry bare ↔
      bare = ((entry.after? ['[', '[']).bind (·.before? [']', ']'])).getD entry := by
  have hlink (inner : Text) : (entry.after? ['[', '[']).bind (·.before? [']', ']']) = some inner ↔
      entry = ['[', '['] ++ inner ++ [']', ']'] := by
    rw [Option.bind_eq_some_iff]
    constructor
    · rintro ⟨rest, hr, hi⟩
      rw [Text.eq_of_after? hr, Text.before?_eq_some_iff.mp hi, List.append_assoc]
    · rintro rfl
      exact ⟨inner ++ [']', ']'], by rw [List.append_assoc, Text.after?_append],
        Text.before?_eq_some_iff.mpr rfl⟩
  simp only [Unlinks, Ne, ← hlink]
  cases (entry.after? ['[', '[']).bind (·.before? [']', ']']) with
  | none => simp
  | some inner => simp [eq_comm]

/-- The brackets aside, nothing is left that the entry does not have. -/
theorem Unlinks.no_space {entry bare : Text} (h : Unlinks entry bare)
    (hs : ∀ c ∈ entry, isSpace c = false) : ∀ c ∈ bare, isSpace c = false := by
  rcases h with rfl | ⟨rfl, -⟩
  · exact fun c hc => hs c (by simp [hc])
  · exact hs

theorem stripsTo_iff {value bare : Text} : StripsTo value bare ↔ bare = unlink value := by
  simp only [StripsTo, Text.trimsTo_iff, unlinks_iff, exists_and_left, exists_eq_left, unlink]

theorem meansEntity_iff {value : Text} {result : Except Reason (EntityId kind)} :
    MeansEntity value result ↔ entityOf kind value = result := by
  have ht : (unlink value).trim = unlink value := Text.trim_trim _
  cases result with
  | ok id =>
    simp only [MeansEntity, stripsTo_iff, exists_eq_left, entityOf, mapError_eq_ok_iff,
      EntityId.ofText_eq_ok_iff, ht]
  | error reason =>
    simp only [MeansEntity, stripsTo_iff, exists_eq_left, entityOf, mapError_eq_error_iff,
      EntityId.ofText_eq_error_iff_forall_not_isSpelled, ht, and_assoc, exists_and_left]

/-! ## Decimals, memberships and patterns -/

/-- The value writes the number of the decimal, or it writes no number. -/
def MeansDecimal (value : Text) : Except Reason Decimal → Prop
  | .ok d => Decimal.Writes value d.value
  | .error reason => (∀ x, ¬ Decimal.Writes value x) ∧ reason = .decimal ⟨value⟩

/-- The value is the word for the membership, white space around it aside, or it is none of the two
words. -/
def MeansMembership (value : Text) : Except Reason Membership → Prop
  | .ok .instanceOf => Text.TrimsTo value "instance"
  | .ok .subclassOf => Text.TrimsTo value "subclass"
  | .error reason => ¬ Text.TrimsTo value "instance" ∧ ¬ Text.TrimsTo value "subclass" ∧
      reason = .membership

/-- The value is the pattern, white space around it aside, and the check accepts it or says why it
does not. -/
def MeansPattern (check : PatternCheck) (value : Text) : Except Reason Text → Prop
  | .ok pattern => Text.TrimsTo value pattern ∧ check pattern = .ok ()
  | .error reason => ∃ pattern words, Text.TrimsTo value pattern ∧ check pattern = .error words ∧
      reason = .pattern words

theorem meansDecimal_iff {value : Text} {result : Except Reason Decimal} :
    MeansDecimal value result ↔ decimalOf value = result := by
  cases result with
  | ok d =>
    rw [decimalOf, mapError_eq_ok_iff]
    constructor
    · intro h
      obtain ⟨d', hd', hv⟩ := Decimal.ofText_of_writes h
      rwa [← Decimal.value_inj.mp hv]
    · exact Decimal.writes_of_ofText
  | error reason =>
    simp only [MeansDecimal, decimalOf, mapError_eq_error_iff, Decimal.ofText_eq_error_iff,
      and_assoc, exists_and_left, exists_eq_left]

theorem ofKeyword_eq_some_iff {t : Text} {m : Membership} :
    Membership.ofKeyword t = some m ↔ t = m.keyword := by
  have hne : Membership.keyword .subclassOf ≠ Membership.keyword .instanceOf := by decide
  rw [Membership.ofKeyword]
  split_ifs with hi hs
  · cases m <;> simp [hi, hne.symm]
  · cases m <;> simp [hs, hne]
  · cases m <;> simp [hi, hs]

theorem meansMembership_iff {value : Text} {result : Except Reason Membership} :
    MeansMembership value result ↔ membershipOf value = result := by
  have hok (m : Membership) : MeansMembership value (.ok m) ↔
      Membership.ofKeyword value.trim = some m := by
    rw [ofKeyword_eq_some_iff, eq_comm, ← Text.trimsTo_iff]
    cases m <;> rfl
  rw [membershipOf]
  cases hm : Membership.ofKeyword value.trim with
  | some m =>
    cases result with
    | ok m' => simp [hok, hm]
    | error reason =>
      have hn : ¬ MeansMembership value (.error reason) := by
        rintro ⟨hi, hs, -⟩
        have h := (hok m).mpr hm
        cases m
        · exact hi h
        · exact hs h
      simp [hn]
  | none =>
    have hn (m : Membership) : ¬ MeansMembership value (.ok m) := by simp [hok, hm]
    cases result with
    | ok m => simp [hn]
    | error reason =>
      have h : MeansMembership value (.error reason) ↔ reason = .membership :=
        ⟨fun h => h.2.2, fun h => ⟨hn .instanceOf, hn .subclassOf, h⟩⟩
      rw [h, Except.error.injEq, eq_comm]

theorem meansPattern_iff {check : PatternCheck} {value : Text} {result : Except Reason Text} :
    MeansPattern check value result ↔ patternOf check value = result := by
  cases result with
  | ok pattern =>
    rw [MeansPattern, Text.trimsTo_iff, patternOf_eq_ok_iff, eq_comm]
  | error reason =>
    simp only [MeansPattern, Text.trimsTo_iff, exists_and_left, exists_eq_left, patternOf]
    cases check value.trim <;> simp [eq_comm]

/-! ## Lists of entities -/

/-- The entry is read as the identifier. -/
def Names (entry : Text) (id : EntityId kind) : Prop :=
  ∃ bare, Unlinks entry bare ∧ id.IsSpelled bare

/-- The entry is read as no identifier, for the given reason. -/
def IsUnfit (kind : EntityKind) (entry : Text) (reason : Reason) : Prop :=
  ∃ bare, Unlinks entry bare ∧ (∀ id : EntityId kind, ¬ id.IsSpelled bare) ∧
    reason = .entity (if bare = [] then .empty kind else .malformed kind bare)

/-- Why a list with these entries is not read: there are none, or one of them is the first that
names nothing. -/
def IsListFault (kind : EntityKind) (entries : List Text) (reason : Reason) : Prop :=
  entries = [] ∧ reason = .emptyList ∨
    ∃ front entry back, entries = front ++ entry :: back ∧
      (∀ e ∈ front, ∃ id : EntityId kind, Names e id) ∧ IsUnfit kind entry reason

/-- The value lists the identifiers, or it does not list identifiers, for the given reason. -/
def MeansEntities (value : Text) : Except Reason (List (EntityId kind)) → Prop
  | .ok ids => ∃ entries, Text.AreRuns isListSeparator value entries ∧ entries ≠ [] ∧
      List.Forall₂ Names entries ids
  | .error reason => ∃ entries, Text.AreRuns isListSeparator value entries ∧
      IsListFault kind entries reason

section Entry

variable {entry : Text} (hs : ∀ c ∈ entry, isSpace c = false)

include hs

/-- There is nothing to trim where there is no white space. -/
theorem stripsTo_iff_unlinks {bare : Text} : StripsTo entry bare ↔ Unlinks entry bare := by
  simp only [StripsTo, Text.trimsTo_iff, Text.trim_of_no_space hs, exists_and_left, exists_eq_left]
  constructor
  · rintro ⟨inner, hi, rfl⟩
    rwa [Text.trim_of_no_space (hi.no_space hs)]
  · intro h
    exact ⟨bare, h, (Text.trim_of_no_space (h.no_space hs)).symm⟩

theorem names_iff {id : EntityId kind} : Names entry id ↔ entityOf kind entry = .ok id := by
  rw [← meansEntity_iff]
  exact exists_congr fun _ => and_congr_left' (stripsTo_iff_unlinks hs).symm

theorem isUnfit_iff {reason : Reason} :
    IsUnfit kind entry reason ↔ entityOf kind entry = .error reason := by
  rw [← meansEntity_iff]
  exact exists_congr fun _ => and_congr_left' (stripsTo_iff_unlinks hs).symm

end Entry

/-! ### Every entry in turn -/

section Lists

variable {α β ε : Type} {f : α → Except ε β}

theorem mapM_eq_ok_iff {as : List α} {bs : List β} :
    as.mapM f = .ok bs ↔ List.Forall₂ (fun a b => f a = .ok b) as bs := by
  induction as generalizing bs with
  | nil =>
    rw [List.mapM_nil, List.forall₂_nil_left_iff]
    exact ⟨fun h => (Except.ok.inj h).symm, fun h => h ▸ rfl⟩
  | cons a as ih =>
    simp only [List.mapM_cons, List.forall₂_cons_left_iff, ← ih]
    cases f a with
    | error e => exact ⟨nofun, fun ⟨_, _, h, _⟩ => nomatch h⟩
    | ok b =>
      cases as.mapM f with
      | error e => exact ⟨nofun, fun ⟨_, _, _, h, _⟩ => nomatch h⟩
      | ok bs' =>
        constructor
        · intro h
          exact ⟨b, bs', rfl, rfl, (Except.ok.inj h).symm⟩
        · rintro ⟨_, _, ⟨⟩, ⟨⟩, rfl⟩
          rfl

/-- The first with `Q` behind nothing but `P` is the head, or it is the first one of the tail. -/
theorem exists_first_cons_iff {P Q : α → Prop} {a : α} {as : List α} :
    (∃ front x back, a :: as = front ++ x :: back ∧ (∀ y ∈ front, P y) ∧ Q x) ↔
      Q a ∨ P a ∧ ∃ front x back, as = front ++ x :: back ∧ (∀ y ∈ front, P y) ∧ Q x := by
  constructor
  · rintro ⟨_ | ⟨b, front⟩, x, back, h, hP, hQ⟩
    · obtain ⟨rfl, -⟩ := List.cons.inj h
      exact .inl hQ
    · obtain ⟨rfl, rfl⟩ := List.cons.inj h
      rw [List.forall_mem_cons] at hP
      exact .inr ⟨hP.1, front, x, back, rfl, hP.2, hQ⟩
  · rintro (hQ | ⟨hP, front, x, back, rfl, hfront, hQ⟩)
    · exact ⟨[], a, as, rfl, by simp, hQ⟩
    · exact ⟨a :: front, x, back, rfl, List.forall_mem_cons.mpr ⟨hP, hfront⟩, hQ⟩

/-- The first failure is that of the whole. -/
theorem mapM_eq_error_iff {as : List α} {e : ε} :
    as.mapM f = .error e ↔ ∃ front a back, as = front ++ a :: back ∧
      (∀ a ∈ front, ∃ b, f a = .ok b) ∧ f a = .error e := by
  induction as with
  | nil => exact ⟨nofun, fun ⟨front, a, back, h, _⟩ => by simp at h⟩
  | cons a as ih =>
    rw [exists_first_cons_iff, ← ih, List.mapM_cons]
    cases f a with
    | error e' => simp [bind, Except.bind]
    | ok b =>
      cases as.mapM f with
      | error e' => simp [bind, Except.bind]
      | ok bs => simp [bind, Except.bind, pure, Except.pure]

theorem forall₂_congr_of_mem {R S : α → β → Prop} {as : List α} {bs : List β}
    (h : ∀ a ∈ as, ∀ b, R a b ↔ S a b) : List.Forall₂ R as bs ↔ List.Forall₂ S as bs := by
  constructor
  · intro hr
    exact ((List.forall₂_and_left as bs).mpr ⟨h, hr⟩).imp fun _ b hab => (hab.1 b).mp hab.2
  · intro hs
    exact ((List.forall₂_and_left as bs).mpr ⟨h, hs⟩).imp fun _ b hab => (hab.1 b).mpr hab.2

end Lists

theorem isSpace_of_isRun {entry : Text} (h : Text.IsRun isListSeparator entry) :
    ∀ c ∈ entry, isSpace c = false := by
  intro c hc
  have hn := h.2 c hc
  rw [isListSeparator, Bool.or_eq_false_iff] at hn
  exact hn.2

section Entities

variable {value : Text} {entries : List Text} (hr : Text.AreRuns isListSeparator value entries)

include hr

theorem entitiesOf_eq_ok_iff_names {ids : List (EntityId kind)} :
    entitiesOf kind value = .ok ids ↔ entries ≠ [] ∧ List.Forall₂ Names entries ids := by
  have hnames : List.Forall₂ (fun entry id => entityOf kind entry = .ok id) entries ids ↔
      List.Forall₂ Names entries ids :=
    forall₂_congr_of_mem fun entry hm _ => (names_iff (isSpace_of_isRun (hr.2 entry hm))).symm
  rw [entitiesOf_eq_ok_iff, Text.areRuns_iff.mp hr, mapM_eq_ok_iff, hnames, and_comm]
  refine and_congr_left fun h => ?_
  rw [Ne, Ne, ← List.length_eq_zero_iff, ← List.length_eq_zero_iff, h.length_eq]

theorem entitiesOf_eq_error_iff {reason : Reason} :
    entitiesOf kind value = .error reason ↔ IsListFault kind entries reason := by
  have hfault : entries.mapM (entityOf kind) = .error reason ↔
      ∃ front entry back, entries = front ++ entry :: back ∧
        (∀ e ∈ front, ∃ id : EntityId kind, Names e id) ∧ IsUnfit kind entry reason := by
    rw [mapM_eq_error_iff]
    refine exists₃_congr fun front entry back => and_congr_right fun he => ?_
    have hs : ∀ e ∈ entries, ∀ c ∈ e, isSpace c = false := fun e hm => isSpace_of_isRun (hr.2 e hm)
    subst he
    refine and_congr (forall₂_congr fun e hm => exists_congr fun id => ?_) ?_
    · exact (names_iff (hs e (by simp [hm]))).symm
    · exact (isUnfit_iff (hs entry (by simp))).symm
  rw [entitiesOf, Text.areRuns_iff.mp hr, IsListFault, ← hfault]
  cases hm : entries.mapM (entityOf kind) with
  | error reason' =>
    have hn : entries ≠ [] := by
      rintro rfl
      cases hm
    simp [hn]
  | ok ids =>
    have hl : ids = [] ↔ entries = [] := by
      rw [← List.length_eq_zero_iff, ← List.length_eq_zero_iff, (mapM_eq_ok_iff.mp hm).length_eq]
    cases ids with
    | nil => simp [hl.mp rfl, eq_comm]
    | cons id ids => simp [← hl]

end Entities

/-- A value has its entries in one way only, so that it has one meaning. -/
theorem meansEntities_iff {value : Text} {result : Except Reason (List (EntityId kind))} :
    MeansEntities value result ↔ entitiesOf kind value = result := by
  have hr : Text.AreRuns isListSeparator value (Text.runs isListSeparator value) :=
    Text.areRuns_iff.mpr rfl
  cases result with
  | ok ids =>
    simp only [MeansEntities, Text.areRuns_iff, exists_eq_left', entitiesOf_eq_ok_iff_names hr]
  | error reason =>
    simp only [MeansEntities, Text.areRuns_iff, exists_eq_left', entitiesOf_eq_error_iff hr]

end WikiAxioms.Catalog
