import WikiAxioms.Markup.Backtracking
import WikiAxioms.Proofs.Markup.Grammar

/-!
# Steps back lead nowhere else

Reading with steps back finds the fields that reading in one pass finds, and where no declaration
goes on it fails at the same token and expects the same. Wherever a field ends, the furthest failure
lies there, or in a link that is left open; everything before it has been forgotten by then.
-/

namespace WikiAxioms.Markup

/-- Puts the tokens of a field in front of a reading. -/
def Reading.prepend (f : Field) (r : Reading) : Reading := { r with current := f ++ r.current }

/-- Puts fields behind an empty one in front of a reading that starts with an empty field. -/
def Reading.behind (fs : List Field) (r : Reading) : Reading := ⟨[], fs ++ r.following, r.rest⟩

namespace Backtracking

/-! ## The furthest failure -/

theorem furthest_of_lt {a b : Failure} (h : b.rest.length < a.rest.length) : a.furthest b = b := by
  rw [Failure.furthest, if_pos h]

theorem furthest_of_gt {a b : Failure} (h : a.rest.length < b.rest.length) : a.furthest b = a := by
  rw [Failure.furthest, if_neg (by omega), if_pos h]

theorem furthest_same (ts : List Token) {expected : List Text} {words : Text}
    (h : words ∉ expected) :
    (Failure.mk ts expected).furthest ⟨ts, [words]⟩ = ⟨ts, expected ++ [words]⟩ := by
  simp [Failure.furthest, h]

/-- No failure is known at the tokens `ts` or behind them. -/
def IsAhead (known : Option Failure) (ts : List Token) : Prop :=
  ∀ f ∈ known, ts.length < f.rest.length

theorem IsAhead.none (ts : List Token) : IsAhead none ts := by simp [IsAhead]

theorem IsAhead.mono {known : Option Failure} {ts us : List Token} (h : IsAhead known ts)
    (hle : us.length ≤ ts.length) : IsAhead known us :=
  fun f hf => hle.trans_lt (h f hf)

theorem isAhead_some {f : Failure} {ts : List Token} :
    IsAhead (some f) ts ↔ ts.length < f.rest.length := by simp [IsAhead]

theorem note_of_isAhead {known : Option Failure} {f : Failure} (h : IsAhead known f.rest) :
    note known f = f := by
  cases known with
  | none => rfl
  | some g => exact furthest_of_lt (isAhead_some.mp h)

/-! ## Single tokens -/

/-- The tokens start with `k` or with no token `k`. -/
theorem forall_head?_ne_or (k : Token) (ts : List Token) :
    (∀ t ∈ ts.head?, t ≠ k) ∨ ∃ rest, ts = k :: rest := by
  cases ts with
  | nil => simp
  | cons t rest =>
    by_cases h : t = k
    · exact .inr ⟨rest, h ▸ rfl⟩
    · exact .inl (by simpa using h)

@[simp] theorem one_cons_of_pos {p : Token → Bool} {t : Token} (h : p t = true)
    (expected : List Text) (ts : List Token) (known : Option Failure) :
    one expected p (t :: ts) known = ⟨some (t, ts), known⟩ := by
  simp [one, h]

theorem one_of_neg {p : Token → Bool} {ts : List Token} (h : ∀ t ∈ ts.head?, p t = false)
    (expected : List Text) (known : Option Failure) :
    one expected p ts known = ⟨none, some (note known ⟨ts, expected⟩)⟩ := by
  cases ts with
  | nil => rfl
  | cons t ts => simp [one, h t rfl, fail]

theorem just_self (k : Token) (ts : List Token) (known : Option Failure) :
    just k (k :: ts) known = ⟨some (k, ts), known⟩ :=
  one_cons_of_pos (beq_self_eq_true k) _ ts known

theorem just_of_ne {k : Token} {ts : List Token} (h : ∀ t ∈ ts.head?, t ≠ k) (known : Failure) :
    just k ts (some known) = ⟨none, some (known.furthest ⟨ts, [k.describe]⟩)⟩ :=
  one_of_neg (fun t ht => beq_false_of_ne (h t ht)) _ _

/-- A run of tokens of one kind ends where the first other token stands. -/
theorem many_oneOf (p : Token → Bool) (ts : List Token) (known : Option Failure) :
    many (oneOf p) ts known =
      ⟨some (ts.takeWhile p, ts.dropWhile p), some (note known ⟨ts.dropWhile p, []⟩)⟩ := by
  induction ts with
  | nil => rw [many]; rfl
  | cons t ts ih =>
    rw [many]
    by_cases h : p t = true
    · simp only [oneOf, one_cons_of_pos h] at ih ⊢
      simp [ih, Outcome.map, h]
    · simp [oneOf, one, fail, h]

theorem both_of_found {α β γ : Type} (combine : α → β → γ) {p : Reader α} (q : Reader β)
    {ts rest : List Token} {known known' : Option Failure} {a : α}
    (h : p ts known = ⟨some (a, rest), known'⟩) :
    both combine p q ts known = (q rest known').map (combine a) := by
  rw [both, h]

theorem both_of_failed {α β γ : Type} (combine : α → β → γ) {p : Reader α} (q : Reader β)
    {ts : List Token} {known known' : Option Failure} (h : p ts known = ⟨none, known'⟩) :
    both combine p q ts known = ⟨none, known'⟩ := by
  rw [both, h]

/-! ## Links -/

theorem map_prepend_map_prepend (f g : Field) (x : Except Offence Reading) :
    (x.map (Reading.prepend g)).map (Reading.prepend f) = x.map (Reading.prepend (f ++ g)) := by
  cases x with
  | error o => rfl
  | ok r => simp [Except.map, Reading.prepend]

/-- In a link, reading in one pass depends on the first token that does not fit. -/
theorem readFields_true (ts : List Token) : readFields true ts =
    (readFields true (ts.dropWhile Token.fitsLink)).map
      (Reading.prepend (ts.takeWhile Token.fitsLink)) := by
  induction ts with
  | nil => rfl
  | cons t ts ih =>
    by_cases h : t.fitsLink = true
    · rw [readFields_of_fitsLink h, ih, List.dropWhile_cons_of_pos h, List.takeWhile_cons_of_pos h]
      exact map_prepend_map_prepend [t] _ _
    · rw [List.dropWhile_cons_of_neg h, List.takeWhile_cons_of_neg h]
      cases readFields true (t :: ts) <;> rfl

theorem readFields_true_of_refused {ts : List Token}
    (h : ∀ t ∈ ts.head?, t ≠ .linkClosing ∧ t.fitsLink = false) :
    readFields true ts = .error ⟨ts, .linkEnd⟩ := by
  cases ts with
  | nil => rfl
  | cons t ts =>
    obtain ⟨hc, hf⟩ := h t rfl
    simp [readFields, hc, hf]

section

variable {ts : List Token} {known : Option Failure} (h : IsAhead known ts)
include h

theorem linkStart_eq : both List.cons (just .linkOpening) (many (oneOf Token.fitsLink))
    (.linkOpening :: ts) known =
      ⟨some (.linkOpening :: ts.takeWhile Token.fitsLink, ts.dropWhile Token.fitsLink),
        some ⟨ts.dropWhile Token.fitsLink, []⟩⟩ := by
  have hd : (ts.dropWhile Token.fitsLink).length ≤ ts.length := List.length_dropWhile_le _ ts
  rw [both_of_found _ _ (just_self _ ts known), many_oneOf, note_of_isAhead (h.mono hd)]
  rfl

/-- A link that is closed is a piece, and is read as in one pass. -/
theorem link_of_closed {rest : List Token}
    (hc : ts.dropWhile Token.fitsLink = .linkClosing :: rest) :
    ∃ f, link (.linkOpening :: ts) known =
        ⟨some (f, rest), some ⟨.linkClosing :: rest, []⟩⟩ ∧
      readFields false (.linkOpening :: ts) = (readFields false rest).map (Reading.prepend f) := by
  refine ⟨.linkOpening :: (ts.takeWhile Token.fitsLink ++ [.linkClosing]), ?_, ?_⟩
  · have hstart := linkStart_eq h
    rw [hc] at hstart
    rw [link, both_of_found _ _ hstart, just_self]
    rfl
  · rw [readFields_linkOpening, readFields_true, hc, readFields_linkClosing]
    cases readFields false rest <;> simp [Except.map, Reading.prepend, Reading.push]

/-- A link that is left open fails where it could not go on. -/
theorem link_of_open (hc : ∀ t ∈ (ts.dropWhile Token.fitsLink).head?, t ≠ .linkClosing) :
    ∃ o, link (.linkOpening :: ts) known =
        ⟨none, some ⟨o.rest, o.expectation.words⟩⟩ ∧ o.rest.length ≤ ts.length ∧
      readFields false (.linkOpening :: ts) = .error o := by
  have hfits : ∀ t ∈ (ts.dropWhile Token.fitsLink).head?, t.fitsLink = false := by
    intro t ht
    have hd := List.head?_dropWhile_not Token.fitsLink ts
    rwa [Option.mem_def.mp ht] at hd
  refine ⟨⟨ts.dropWhile Token.fitsLink, .linkEnd⟩, ?_, List.length_dropWhile_le _ ts, ?_⟩
  · rw [link, both_of_found _ _ (linkStart_eq h), just_of_ne hc,
      furthest_same _ (List.not_mem_nil)]
    rfl
  · rw [readFields_linkOpening, readFields_true,
      readFields_true_of_refused fun t ht => ⟨hc t ht, hfits t ht⟩]
    rfl

end

/-! ## Fields -/

/-- Where a field ends, and the furthest failure then. -/
inductive Stops : List Token → Failure → Prop
  | outside {ts : List Token} (h : ∀ t ∈ ts.head?, t.fitsField = false ∧ t ≠ .linkOpening) :
      Stops ts ⟨ts, [Token.linkOpening.describe]⟩
  | openLink {ts : List Token} {o : Offence}
      (hr : readFields false (.linkOpening :: ts) = .error o) (hle : o.rest.length ≤ ts.length) :
      Stops (.linkOpening :: ts) ⟨o.rest, o.expectation.words⟩

/-- A piece is read as in one pass, or the field ends. -/
inductive IsPieceOf (ts : List Token) : Outcome Field → Prop
  | found {f : Field} {rest : List Token} {known : Option Failure}
      (hlt : rest.length < ts.length) (hk : IsAhead known rest)
      (hr : readFields false ts = (readFields false rest).map (Reading.prepend f)) :
      IsPieceOf ts ⟨some (f, rest), known⟩
  | stop {failure : Failure} (h : Stops ts failure) : IsPieceOf ts ⟨none, some failure⟩

theorem piece_of_not_fitsField {ts : List Token} {known : Option Failure} (h : IsAhead known ts)
    (hf : ∀ t ∈ ts.head?, t.fitsField = false) : piece ts known = link ts (some ⟨ts, []⟩) := by
  rw [piece, orElse, map, oneOf, one_of_neg hf, note_of_isAhead h]
  rfl

theorem link_of_not_linkOpening {ts : List Token} (h : ∀ t ∈ ts.head?, t ≠ .linkOpening) :
    link ts (some ⟨ts, []⟩) = ⟨none, some ⟨ts, [Token.linkOpening.describe]⟩⟩ := by
  have hjust : just .linkOpening ts (some ⟨ts, []⟩) =
      ⟨none, some ⟨ts, [Token.linkOpening.describe]⟩⟩ := by
    rw [just_of_ne h, furthest_same ts List.not_mem_nil]
    rfl
  rw [link, both_of_failed _ _ (both_of_failed _ _ hjust)]

theorem isPieceOf_link {ts : List Token} {known : Option Failure} (h : IsAhead known ts) :
    IsPieceOf (.linkOpening :: ts) (link (.linkOpening :: ts) known) := by
  rcases forall_head?_ne_or .linkClosing (ts.dropWhile Token.fitsLink) with hc | ⟨rest, hrest⟩
  · obtain ⟨o, hlink, hle, hr⟩ := link_of_open h hc
    rw [hlink]
    exact .stop (.openLink hr hle)
  · obtain ⟨f, hlink, hr⟩ := link_of_closed h hrest
    have hle := List.length_dropWhile_le Token.fitsLink ts
    rw [hrest, List.length_cons] at hle
    rw [hlink]
    refine .found ?_ (isAhead_some.mpr (by simp)) hr
    rw [List.length_cons]
    omega

theorem isPieceOf_token {t : Token} {ts : List Token} {known : Option Failure}
    (hf : t.fitsField = true) (h : IsAhead known ts) :
    IsPieceOf (t :: ts) (piece (t :: ts) known) := by
  have hp : piece (t :: ts) known = ⟨some ([t], ts), known⟩ := by
    rw [piece, orElse, map, oneOf, one_cons_of_pos hf]
    rfl
  rw [hp]
  refine .found (by simp) h ?_
  rw [readFields_of_fitsField hf]
  rfl

theorem isPieceOf_piece {ts : List Token} {known : Option Failure} (h : IsAhead known ts) :
    IsPieceOf ts (piece ts known) := by
  by_cases hf : ∀ t ∈ ts.head?, t.fitsField = false
  · rw [piece_of_not_fitsField h hf]
    rcases forall_head?_ne_or .linkOpening ts with ho | ⟨ts, rfl⟩
    · rw [link_of_not_linkOpening ho]
      exact .stop (.outside fun t ht => ⟨hf t ht, ho t ht⟩)
    · exact isPieceOf_link (isAhead_some.mpr (by simp))
  · push Not at hf
    obtain ⟨t, ht, hft⟩ := hf
    obtain ⟨ts, rfl⟩ := List.head?_eq_some_iff.mp ht
    exact isPieceOf_token (eq_true_of_ne_false hft) (h.mono (by simp))

/-- A field is read as in one pass up to where it ends. -/
theorem exists_field {ts : List Token} {known : Option Failure} (h : IsAhead known ts) :
    ∃ f rest failure, field ts known = ⟨some (f, rest), some failure⟩ ∧
      rest.length ≤ ts.length ∧ Stops rest failure ∧
      readFields false ts = (readFields false rest).map (Reading.prepend f) := by
  suffices ∃ fs rest failure, many piece ts known = ⟨some (fs, rest), some failure⟩ ∧
      rest.length ≤ ts.length ∧ Stops rest failure ∧
      readFields false ts = (readFields false rest).map (Reading.prepend fs.flatten) by
    obtain ⟨fs, rest, failure, hm, hle, hstop, hr⟩ := this
    exact ⟨fs.flatten, rest, failure, by rw [field, map, hm]; rfl, hle, hstop, hr⟩
  fun_induction many piece ts known with
  | case1 ts known known' hp =>
    have hpiece := isPieceOf_piece h
    rw [hp] at hpiece
    cases hpiece with
    | stop hstop =>
      refine ⟨[], ts, _, rfl, le_rfl, hstop, ?_⟩
      cases readFields false ts <;> rfl
  | case2 ts known f rest known' hp hlt ih =>
    have hpiece := isPieceOf_piece h
    rw [hp] at hpiece
    cases hpiece with
    | found _ hk hr =>
      obtain ⟨fs, rest', failure, hm, hle, hstop, hr'⟩ := ih hk
      refine ⟨f :: fs, rest', failure, by rw [hm]; rfl, hle.trans hlt.le, hstop, ?_⟩
      rw [hr, hr', map_prepend_map_prepend, List.flatten_cons]
  | case3 ts known f rest known' hp hlt =>
    have hpiece := isPieceOf_piece h
    rw [hp] at hpiece
    cases hpiece with
    | found hlt' _ _ => exact absurd hlt' hlt

/-! ## Declarations -/

/-- Where no further field starts: the closing braces are read, or reading fails for good. -/
inductive Ends : List Token → Failure → Prop
  | closing {rest : List Token} {failure : Failure} (hlt : rest.length < failure.rest.length) :
      Ends (.closing :: rest) failure
  | refused {ts : List Token} {failure : Failure} {o : Offence}
      (hr : readFields false ts = .error o)
      (hj : just .closing ts (some failure) = ⟨none, some ⟨o.rest, o.expectation.words⟩⟩) :
      Ends ts failure

/-- Where a field ends a separator is read, or the fields end. -/
theorem Stops.pipe_or_ends {ts : List Token} {failure : Failure} (h : Stops ts failure) :
    (∃ rest, ts = .pipe :: rest ∧ rest.length < failure.rest.length) ∨
      ∃ failure', just .pipe ts (some failure) = ⟨none, some failure'⟩ ∧ Ends ts failure' := by
  cases h with
  | outside hs =>
    rcases forall_head?_ne_or .pipe ts with hp | ⟨ts, rfl⟩
    · refine .inr ⟨⟨ts, [Token.linkOpening.describe, Token.pipe.describe]⟩, ?_, ?_⟩
      · rw [just_of_ne hp, furthest_same ts (by decide)]
        rfl
      · rcases forall_head?_ne_or .closing ts with hc | ⟨ts, rfl⟩
        · refine .refused (o := ⟨ts, .fieldEnd⟩) ?_ ?_
          · cases ts with
            | nil => rfl
            | cons t ts =>
              obtain ⟨hf, ho⟩ := hs t rfl
              simp [readFields, hf, ho, hp t rfl, hc t rfl]
          · rw [just_of_ne hc, furthest_same ts (by decide)]
            rfl
        · exact .closing (by simp)
    · exact .inl ⟨ts, rfl, by simp⟩
  | @openLink ts o hr hle =>
    have hlt : o.rest.length < (Token.linkOpening :: ts).length := by
      rw [List.length_cons]
      omega
    have hkept {k : Token} (hk : .linkOpening ≠ k) :
        just k (.linkOpening :: ts) (some ⟨o.rest, o.expectation.words⟩) =
          ⟨none, some ⟨o.rest, o.expectation.words⟩⟩ := by
      rw [just_of_ne (by simpa using hk), furthest_of_gt hlt]
    exact .inr ⟨_, hkept (by simp), .refused hr (hkept (by simp))⟩

theorem map_behind_nil {ts : List Token} {failure : Failure} (h : Ends ts failure) :
    readFields false ts = (readFields false ts).map (Reading.behind []) := by
  cases h with
  | closing => rfl
  | refused hr _ => rw [hr]; rfl

theorem map_separate_prepend (f : Field) (fs : List Field) (x : Except Offence Reading) :
    ((x.map (Reading.behind fs)).map (Reading.prepend f)).map Reading.separate =
      x.map (Reading.behind (f :: fs)) := by
  cases x with
  | error o => rfl
  | ok r => simp [Except.map, Reading.prepend, Reading.behind, Reading.separate]

/-- From the end of a field on, the fields behind separators are read as in one pass. -/
theorem Stops.exists_fields {ts : List Token} {failure : Failure} (h : Stops ts failure) :
    ∃ fs rest failure', many (ignoreThen (just .pipe) field) ts (some failure) =
        ⟨some (fs, rest), some failure'⟩ ∧ Ends rest failure' ∧
      readFields false ts = (readFields false rest).map (Reading.behind fs) := by
  induction hn : ts.length using Nat.strong_induction_on generalizing ts failure with
  | _ n ih =>
    rcases h.pipe_or_ends with ⟨us, rfl, hlt⟩ | ⟨failure', hj, hends⟩
    · obtain ⟨f, rest, failure', hf, hle, hstop, hr⟩ := exists_field (isAhead_some.mpr hlt)
      have hp : ignoreThen (just .pipe) field (.pipe :: us) (some failure) =
          ⟨some (f, rest), some failure'⟩ := by
        rw [ignoreThen, both_of_found _ _ (just_self _ us _), hf]
        rfl
      have hshorter : rest.length < (Token.pipe :: us).length := by
        rw [List.length_cons]
        omega
      obtain ⟨fs, rest', failure'', hm, hends, hr'⟩ := ih _ (hn ▸ hshorter) hstop rfl
      refine ⟨f :: fs, rest', failure'', ?_, hends, ?_⟩
      · rw [many, hp]
        simp only [if_pos hshorter, hm]
        rfl
      · rw [readFields_pipe, hr, hr', map_separate_prepend]
    · refine ⟨[], ts, failure', ?_, hends, map_behind_nil hends⟩
      rw [many, ignoreThen, both_of_failed _ _ hj]

/-- The fields up to the closing braces. -/
def fields : Reader (Field × List Field) :=
  thenIgnore (both Prod.mk field (many (ignoreThen (just .pipe) field))) (just .closing)

theorem fields_eq {ts : List Token} {known : Option Failure} (h : IsAhead known ts) :
    match readFields false ts with
    | .ok r => ∃ known', fields ts known = ⟨some ((r.current, r.following), r.rest), known'⟩ ∧
        IsAhead known' r.rest
    | .error o => fields ts known = ⟨none, some ⟨o.rest, o.expectation.words⟩⟩ := by
  obtain ⟨f, rest, failure, hf, -, hstop, hr⟩ := exists_field h
  obtain ⟨fs, rest', failure', hm, hends, hr'⟩ := hstop.exists_fields
  have hb : both Prod.mk field (many (ignoreThen (just .pipe) field)) ts known =
      ⟨some ((f, fs), rest'), some failure'⟩ := by
    rw [both_of_found _ _ hf, hm]
    rfl
  rw [hr, hr', fields, thenIgnore, both_of_found _ _ hb]
  cases hends with
  | @closing rest _ hlt =>
    refine ⟨some failure', ?_, isAhead_some.mpr hlt⟩
    rw [just_self]
    simp [Outcome.map, Reading.prepend, Reading.behind]
  | refused hr'' hj =>
    rw [hr'', hj]
    rfl

/-- Padding is skipped as in one pass, and is not expected anywhere. -/
theorem exists_padding {ts : List Token} {known : Option Failure} (h : IsAhead known ts) :
    ∃ x known', padding ts known = ⟨some (x, skipPadding ts), known'⟩ ∧
      (∀ words, note known' ⟨skipPadding ts, [words]⟩ = ⟨skipPadding ts, [words]⟩) ∧
      ∀ us : List Token, us.length < (skipPadding ts).length → IsAhead known' us := by
  have hnone (hp : ∀ t ∈ ts.head?, t.isPadding = false) :
      padding ts known = ⟨some (none, ts), some ⟨ts, []⟩⟩ := by
    rw [padding, optional, oneOf, one_of_neg hp, note_of_isAhead h]
  have hnoted (words : Text) : note (some ⟨ts, []⟩) ⟨ts, [words]⟩ = ⟨ts, [words]⟩ :=
    furthest_same ts List.not_mem_nil
  cases ts with
  | nil => exact ⟨none, some ⟨[], []⟩, hnone (by simp), hnoted, fun _ hu => isAhead_some.mpr hu⟩
  | cons t ts =>
    by_cases ht : t.isPadding = true
    · have hts : IsAhead known ts := h.mono (by simp)
      refine ⟨some t, known, ?_, ?_, ?_⟩
      · rw [padding, optional, oneOf, one_cons_of_pos ht]
        simp [skipPadding, ht]
      · intro words
        rw [skipPadding, if_pos ht, note_of_isAhead hts]
      · intro us hu
        rw [skipPadding, if_pos ht] at hu
        exact hts.mono hu.le
    · rw [skipPadding, if_neg ht]
      exact ⟨none, some ⟨t :: ts, []⟩, hnone (by simpa using ht), hnoted,
        fun _ hu => isAhead_some.mpr hu⟩

theorem ignoreThen_of_found {α β : Type} {p : Reader α} (q : Reader β) {ts rest : List Token}
    {known known' : Option Failure} {a : α} (h : p ts known = ⟨some (a, rest), known'⟩) :
    ignoreThen p q ts known = q rest known' := by
  rw [ignoreThen, both_of_found _ _ h]
  rcases q rest known' with ⟨_ | _, _⟩ <;> rfl

/-- What follows the opening braces, from there on. -/
theorem declaration_of_opening {ts us : List Token} {known : Option Failure}
    (h : ignoreThen padding (just .opening) ts none = ⟨some (.opening, us), known⟩) :
    declaration ts none = thenIgnore (thenIgnore fields padding) finish us known := by
  have hf := ignoreThen_of_found field h
  simp only [declaration, fields, thenIgnore, both, hf]

theorem declaration_of_failed {ts : List Token} {failure : Option Failure}
    (h : ignoreThen padding (just .opening) ts none = ⟨none, failure⟩) :
    declaration ts none = ⟨none, failure⟩ := by
  have hf : ignoreThen (ignoreThen padding (just .opening)) field ts none = ⟨none, failure⟩ :=
    both_of_failed _ _ h
  simp only [declaration, thenIgnore, both, hf]

/-- Reading with steps back is reading in one pass: the same fields, or the same place with the same
words for what could have stood there. -/
theorem run_declaration (ts : List Token) : run declaration ts =
    (readDeclaration ts).mapError fun o => some ⟨o.rest, o.expectation.words⟩ := by
  obtain ⟨x, known, hpad, hnote, hahead⟩ := exists_padding (.none ts)
  have hstart := ignoreThen_of_found (just .opening) hpad
  unfold readDeclaration
  split
  · next us hopen =>
    rw [hopen, just_self] at hstart
    have hus : IsAhead known us := hahead us (by simp [hopen])
    have hfields := fields_eq hus
    rw [run, declaration_of_opening hstart]
    cases hr : readFields false us with
    | error o =>
      rw [hr] at hfields
      have hf : thenIgnore fields padding us known = ⟨none, some ⟨o.rest, o.expectation.words⟩⟩ :=
        both_of_failed _ _ hfields
      rw [thenIgnore, both_of_failed _ _ hf]
      rfl
    | ok r =>
      rw [hr] at hfields
      obtain ⟨known', hf, hahead'⟩ := hfields
      obtain ⟨x', known'', hpad', hnote', -⟩ := exists_padding hahead'
      have hb : thenIgnore fields padding us known =
          ⟨some ((r.current, r.following), skipPadding r.rest), known''⟩ := by
        rw [thenIgnore, both_of_found _ _ hf, hpad']
        rfl
      rw [thenIgnore, both_of_found _ _ hb]
      cases hs : skipPadding r.rest with
      | nil =>
        simp only [finish, hs]
        rfl
      | cons t rest =>
        rw [hs] at hnote'
        simp only [finish, fail, hnote', hs]
        rfl
  · next hopen =>
    have hne : ∀ t ∈ (skipPadding ts).head?, t ≠ .opening := by
      rcases forall_head?_ne_or .opening (skipPadding ts) with hne | ⟨us, hs⟩
      · exact hne
      · exact absurd hs (hopen us)
    rw [just, one_of_neg fun t ht => beq_false_of_ne (hne t ht), hnote] at hstart
    rw [run, declaration_of_failed hstart]
    rfl

end Backtracking

end WikiAxioms.Markup
