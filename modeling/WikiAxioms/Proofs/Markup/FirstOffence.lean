import WikiAxioms.Proofs.Markup.Grammar
import WikiAxioms.Proofs.Text.Bytes

/-!
# Where syntax faults stand

Reading goes from left to right and gives up at the first token with which no declaration goes on:
what comes before it is the start of one, and what could have stood in its place is told. A text
that is a declaration, but denotes no template, is at fault in its name or in the first field with a
blank key. In every case the offsets of the fault lie between characters.
-/

namespace WikiAxioms.Markup

/-! ## Places in a text -/

@[simp] theorem sizeOfTokens_nil : sizeOfTokens [] = 0 := rfl

@[simp] theorem sizeOfTokens_cons (t : Token) (ts : List Token) :
    sizeOfTokens (t :: ts) = t.size + sizeOfTokens ts := rfl

@[simp] theorem sizeOfTokens_append (ts us : List Token) :
    sizeOfTokens (ts ++ us) = sizeOfTokens ts + sizeOfTokens us := by
  simp [sizeOfTokens]

theorem sizeOfTokens_eq_byteLength (ts : List Token) :
    sizeOfTokens ts = (sources ts).byteLength := by
  induction ts with
  | nil => rfl
  | cons t ts ih => simp [sources, Token.size, ih]

theorem sizeOfTokens_tokens (source : Text) : sizeOfTokens (tokens source) = source.byteLength := by
  rw [sizeOfTokens_eq_byteLength, sources_tokens]

/-- The bytes of a part of the tokens of a text, `lead` being the tokens in front of it. -/
def spanOf (lead part : List Token) : Span :=
  ⟨sizeOfTokens lead, sizeOfTokens (lead ++ part)⟩

theorem spanOf_eq (lead part : List Token) :
    spanOf lead part = ⟨sizeOfTokens lead, sizeOfTokens lead + sizeOfTokens part⟩ := by
  rw [spanOf, sizeOfTokens_append]

/-- A fault is about a piece of a text: its offsets lie between characters, in order, and its
fragment is what stands between them. -/
structure SyntaxFault.IsAbout (fault : SyntaxFault) (source : Text) : Prop where
  ordered : fault.span.first ≤ fault.span.last
  inside : fault.span.last ≤ source.byteLength
  cut : ∃ lead rest, source = lead ++ fault.fragment ++ rest ∧
    fault.span = ⟨lead.byteLength, (lead ++ fault.fragment).byteLength⟩

theorem eq_sources_of_tokens {source : Text} {lead part rest : List Token}
    (h : tokens source = lead ++ part ++ rest) :
    source = sources lead ++ sources part ++ sources rest := by
  rw [← sources_append, ← sources_append, ← h, sources_tokens]

theorem fragment_ofSpan {source : Text} {lead part rest : List Token}
    (h : tokens source = lead ++ part ++ rest) (cause : Cause) (expected : List Text) :
    (SyntaxFault.ofSpan source (spanOf lead part) cause expected).fragment = sources part := by
  have hslice := Text.slice?_append (sources lead) (sources part) (sources rest)
  rw [← eq_sources_of_tokens h, ← sources_append, ← sizeOfTokens_eq_byteLength,
    ← sizeOfTokens_eq_byteLength] at hslice
  rw [SyntaxFault.ofSpan, spanOf, hslice]
  rfl

theorem isAbout_ofSpan {source : Text} {lead part rest : List Token}
    (h : tokens source = lead ++ part ++ rest) (cause : Cause) (expected : List Text) :
    (SyntaxFault.ofSpan source (spanOf lead part) cause expected).IsAbout source := by
  have hspan : (SyntaxFault.ofSpan source (spanOf lead part) cause expected).span =
      spanOf lead part := rfl
  refine ⟨?_, ?_, sources lead, sources rest, ?_, ?_⟩
  · rw [hspan, spanOf_eq]
    exact Nat.le_add_right _ _
  · rw [hspan, ← sizeOfTokens_tokens, h, spanOf, sizeOfTokens_append (lead ++ part)]
    exact Nat.le_add_right _ _
  · rw [fragment_ofSpan h]
    exact eq_sources_of_tokens h
  · rw [fragment_ofSpan h, hspan, spanOf, ← sources_append, sizeOfTokens_eq_byteLength,
      sizeOfTokens_eq_byteLength]

/-! ## Starts of declarations -/

/-- The name and the fields of a declaration, with the padding around it. -/
structure IsLayout (ts front : List Token) (name : Field) (fields : List Field)
    (back : List Token) : Prop where
  isPadding_front : IsPadding front
  isField_name : IsField name
  isField_fields : ∀ f ∈ fields, IsField f
  isPadding_back : IsPadding back
  split : ts = front ++ declarationTokens name fields ++ back

def IsDeclaration (ts : List Token) : Prop :=
  ∃ front name fields back, IsLayout ts front name fields back

/-- Tokens with which a declaration can begin. -/
def IsViable (ts : List Token) : Prop := ∃ more, IsDeclaration (ts ++ more)

/-- Words for a token, or for the end of the text, that may stand behind the tokens `before`. -/
def IsLegalBehind (before : List Token) (words : Text) : Prop :=
  (∃ t : Token, t.describe = words ∧ IsViable (before ++ [t])) ∨
    (words = "end of input".toList ∧ IsDeclaration before)

/-- The tokens of a text cut behind the longest start of a declaration, and what could have stood
there. -/
structure IsFirstOffence (ts before rest : List Token) (expected : List Text) : Prop where
  split : ts = before ++ rest
  viable : IsViable before
  refused : ∀ t ∈ rest.head?, ¬ IsViable (before ++ [t])
  expected_ne_nil : expected ≠ []
  legal : ∀ words ∈ expected, IsLegalBehind before words

theorem readDeclaration_eq_ok_iff_isLayout (ts : List Token) (name : Field)
    (fields : List Field) :
    readDeclaration ts = .ok (name, fields) ↔ ∃ front back, IsLayout ts front name fields back := by
  rw [readDeclaration_eq_ok_iff]
  constructor
  · rintro ⟨front, back, hfront, hn, hf, hback, hts⟩
    exact ⟨front, back, hfront, hn, hf, hback, hts⟩
  · rintro ⟨front, back, hfront, hn, hf, hback, hts⟩
    exact ⟨front, back, hfront, hn, hf, hback, hts⟩

theorem isDeclaration_iff (ts : List Token) :
    IsDeclaration ts ↔ ∃ read, readDeclaration ts = .ok read := by
  constructor
  · rintro ⟨front, name, fields, back, h⟩
    exact ⟨_, (readDeclaration_eq_ok_iff_isLayout ts name fields).mpr ⟨front, back, h⟩⟩
  · rintro ⟨⟨name, fields⟩, h⟩
    obtain ⟨front, back, hl⟩ := (readDeclaration_eq_ok_iff_isLayout ts name fields).mp h
    exact ⟨front, name, fields, back, hl⟩

theorem skipPadding_eq_nil_iff (ts : List Token) : skipPadding ts = [] ↔ IsPadding ts := by
  constructor
  · intro h
    obtain ⟨front, hfront, hts⟩ := isPadding_skipPadding ts
    rw [h, List.append_nil] at hts
    rwa [hts]
  · intro h
    have hs : skipPadding (ts ++ []) = [] := skipPadding_of_isPadding h (by simp)
    rwa [List.append_nil] at hs

/-- What stands in front of the opening braces is padding, whatever follows. -/
theorem exists_padding (ts : List Token) :
    ∃ front, IsPadding front ∧ ts = front ++ skipPadding ts ∧
      ∀ t ∈ (skipPadding ts).head?, ∀ more, skipPadding (front ++ t :: more) = t :: more := by
  cases ts with
  | nil => exact ⟨[], .none, rfl, by simp [skipPadding]⟩
  | cons t ts =>
    by_cases h : t.isPadding = true
    · obtain ⟨front, hfront, hts⟩ := isPadding_skipPadding [t]
      have ht : front = [t] := by simpa [skipPadding, h] using hts.symm
      subst ht
      exact ⟨[t], hfront, by simp [skipPadding, h], by simp [skipPadding, h]⟩
    · refine ⟨[], .none, by simp [skipPadding, h], ?_⟩
      simp [skipPadding, h]

/-- Behind padding and opening braces, a declaration is fields and padding. -/
theorem isDeclaration_opening_iff {front : List Token} (hfront : IsPadding front)
    (ts : List Token) : IsDeclaration (front ++ .opening :: ts) ↔
      ∃ r, readFields false ts = .ok r ∧ IsPadding r.rest := by
  have hs : skipPadding (front ++ .opening :: ts) = .opening :: ts :=
    skipPadding_of_isPadding hfront fun t ht => by cases ht; rfl
  rw [isDeclaration_iff]
  unfold readDeclaration
  rw [hs]
  cases hr : readFields false ts with
  | error o => simp [hr]
  | ok r =>
    cases hb : skipPadding r.rest with
    | nil => simp [hr, hb, (skipPadding_eq_nil_iff _).mp hb]
    | cons t rest =>
      have hp : ¬ IsPadding r.rest := by
        rw [← skipPadding_eq_nil_iff, hb]
        simp
      simp [hr, hb, hp]

/-! ## Reading up to an offence -/

/-- Whether a link is open or not, the tokens `before` are read without a fault, and it depends on
what follows them only how reading ends. -/
def Resumes (inLink : Bool) (before : List Token) (inLink' : Bool) : Prop :=
  ∃ f : Reading → Reading, (∀ r, (f r).rest = r.rest) ∧ ∀ more,
    readFields inLink (before ++ more) = (readFields inLink' more).map f

theorem Resumes.nil (inLink : Bool) : Resumes inLink [] inLink := by
  refine ⟨id, fun _ => rfl, fun more => ?_⟩
  rw [List.nil_append]
  cases readFields inLink more <;> rfl

/-- What is expected where fields are read. -/
def awaited (inLink : Bool) : Expectation := if inLink then .linkEnd else .fieldEnd

/-- Fields are read up to the first token that is refused whatever follows it. -/
structure IsStop (inLink : Bool) (ts before : List Token) (inLink' : Bool) (o : Offence) :
    Prop where
  split : ts = before ++ o.rest
  resumes : Resumes inLink before inLink'
  expectation_eq : o.expectation = awaited inLink'
  refused : ∀ t ∈ o.rest.head?, ∀ more, ∃ o', readFields inLink' (t :: more) = .error o'

theorem IsStop.cons {a b c : Bool} {t : Token} {ts before : List Token} {o : Offence}
    {f : Reading → Reading} (ht : ∀ more, readFields a (t :: more) = (readFields b more).map f)
    (hf : ∀ r, (f r).rest = r.rest) (h : IsStop b ts before c o) :
    IsStop a (t :: ts) (t :: before) c o where
  split := congrArg _ h.split
  resumes := by
    obtain ⟨g, hrest, hg⟩ := h.resumes
    refine ⟨f ∘ g, fun r => (hf _).trans (hrest r), fun more => ?_⟩
    rw [List.cons_append, ht, hg]
    cases readFields c more <;> rfl
  expectation_eq := h.expectation_eq
  refused := h.refused

theorem error_of_map_eq_error {ε α β : Type} {x : Except ε α} {f : α → β} {e : ε}
    (h : x.map f = .error e) : x = .error e := by
  cases x with
  | error e' => exact congrArg _ (Except.error.inj h)
  | ok a => cases h

theorem exists_isStop {inLink : Bool} {ts : List Token} {o : Offence}
    (h : readFields inLink ts = .error o) :
    ∃ before inLink', IsStop inLink ts before inLink' o := by
  -- a token that is read comes in front of the stop behind it; the others are stops themselves
  fun_induction readFields inLink ts with
  | case1 inLink =>
    obtain rfl := Except.error.inj h
    exact ⟨[], inLink, rfl, .nil inLink, rfl, by simp⟩
  | case2 ts ih =>
    obtain ⟨before, b, hstop⟩ := ih (error_of_map_eq_error h)
    exact ⟨_, b, hstop.cons readFields_linkClosing fun _ => rfl⟩
  | case3 t ts _ hfits ih =>
    obtain ⟨before, b, hstop⟩ := ih (error_of_map_eq_error h)
    exact ⟨_, b, hstop.cons (readFields_of_fitsLink hfits) fun _ => rfl⟩
  | case4 t ts hclosing hfits =>
    obtain rfl := Except.error.inj h
    refine ⟨[], true, rfl, .nil true, rfl, fun t' ht more => ?_⟩
    obtain rfl := Option.some.inj ht
    exact ⟨_, by rw [readFields, if_pos rfl, if_neg hclosing, if_neg hfits]⟩
  | case5 inLink ts hin ih =>
    obtain ⟨before, b, hstop⟩ := ih (error_of_map_eq_error h)
    rw [Bool.not_eq_true] at hin
    exact ⟨_, b, hin ▸ hstop.cons readFields_linkOpening fun _ => rfl⟩
  | case6 inLink ts hin _ ih =>
    obtain ⟨before, b, hstop⟩ := ih (error_of_map_eq_error h)
    rw [Bool.not_eq_true] at hin
    exact ⟨_, b, hin ▸ hstop.cons readFields_pipe fun _ => rfl⟩
  | case7 => cases h
  | case8 inLink t ts hin _ _ _ hfits ih =>
    obtain ⟨before, b, hstop⟩ := ih (error_of_map_eq_error h)
    rw [Bool.not_eq_true] at hin
    exact ⟨_, b, hin ▸ hstop.cons (readFields_of_fitsField hfits) fun _ => rfl⟩
  | case9 inLink t ts hin hopening hpipe hclosing hfits =>
    obtain rfl := Except.error.inj h
    have hfalse := Bool.not_eq_true _ ▸ hin
    refine ⟨[], false, rfl, hfalse ▸ .nil false, rfl, fun t' ht more => ?_⟩
    obtain rfl := Option.some.inj ht
    exact ⟨_, by rw [readFields, if_neg Bool.false_ne_true, if_neg hopening, if_neg hpipe,
      if_neg hclosing, if_neg hfits]⟩

/-- Wherever fields are read, the declaration can be brought to its end. -/
theorem exists_ending (inLink : Bool) :
    ∃ more r, readFields inLink more = .ok r ∧ r.rest = [] := by
  cases inLink with
  | false => exact ⟨[.closing], ⟨[], [], []⟩, rfl, rfl⟩
  | true => exact ⟨[.linkClosing, .closing], ⟨[.linkClosing], [], []⟩, rfl, rfl⟩

/-- Whatever is said to be awaited where fields are read leads to an end. -/
theorem exists_ending_of_mem_awaited {inLink : Bool} {words : Text}
    (h : words ∈ (awaited inLink).words) :
    ∃ t more r, t.describe = words ∧ readFields inLink (t :: more) = .ok r ∧ r.rest = [] := by
  cases inLink with
  | false =>
    simp only [awaited, Bool.false_eq_true, if_false, Expectation.words, List.mem_cons,
      List.not_mem_nil, or_false] at h
    rcases h with rfl | rfl | rfl
    · exact ⟨.linkOpening, [.linkClosing, .closing], _, rfl, rfl, rfl⟩
    · exact ⟨.pipe, [.closing], _, rfl, rfl, rfl⟩
    · exact ⟨.closing, [], _, rfl, rfl, rfl⟩
  | true =>
    simp only [awaited, if_true, Expectation.words, List.mem_singleton] at h
    exact ⟨.linkClosing, [.closing], _, h.symm, rfl, rfl⟩

/-! ## The first offence -/

section

variable {front : List Token} (hfront : IsPadding front)
include hfront

theorem isDeclaration_of_resumes {before more : List Token} {inLink : Bool} {r : Reading}
    (hb : Resumes false before inLink) (h : readFields inLink more = .ok r) (hr : r.rest = []) :
    IsDeclaration (front ++ .opening :: before ++ more) := by
  obtain ⟨f, hrest, hf⟩ := hb
  rw [List.append_assoc, List.cons_append, isDeclaration_opening_iff hfront]
  refine ⟨f r, by rw [hf, h]; rfl, ?_⟩
  rw [hrest, hr]
  exact .none

/-- The offence of a field is the first one. -/
theorem IsStop.isFirstOffence {ts before : List Token} {inLink : Bool} {o : Offence}
    (h : IsStop false ts before inLink o) :
    IsFirstOffence (front ++ .opening :: ts) (front ++ .opening :: before) o.rest
      o.expectation.words where
  split := by simp [h.split]
  viable := by
    obtain ⟨more, r, hmore, hr⟩ := exists_ending inLink
    exact ⟨more, isDeclaration_of_resumes hfront h.resumes hmore hr⟩
  refused := by
    rintro t ht ⟨more, hd⟩
    obtain ⟨f, -, hf⟩ := h.resumes
    obtain ⟨o', ho⟩ := h.refused t ht more
    have hts : front ++ .opening :: before ++ [t] ++ more =
        front ++ .opening :: (before ++ t :: more) := by simp
    rw [hts, isDeclaration_opening_iff hfront, hf, ho] at hd
    obtain ⟨r, hr, -⟩ := hd
    cases hr
  expected_ne_nil := by cases o.expectation <;> simp [Expectation.words]
  legal words hw := by
    rw [h.expectation_eq] at hw
    obtain ⟨t, more, r, ht, hmore, hr⟩ := exists_ending_of_mem_awaited hw
    refine .inl ⟨t, ht, more, ?_⟩
    have hd := isDeclaration_of_resumes hfront h.resumes hmore hr
    simpa using hd

/-- Behind a declaration, whatever is no padding is the first offence. -/
theorem exists_isFirstOffence_behind {ts : List Token} {r : Reading}
    (hr : readFields false ts = .ok r) :
    ∃ before, IsFirstOffence (front ++ .opening :: ts) before (skipPadding r.rest)
      Expectation.endOfInput.words := by
  obtain ⟨back, hback, hrest, hskip⟩ := exists_padding r.rest
  obtain ⟨hn, hf, hts⟩ := readFields_sound hr
  have hbefore : IsDeclaration (front ++ declarationTokens r.current r.following ++ back) :=
    ⟨front, r.current, r.following, back, hfront, hn, hf, hback, rfl⟩
  refine ⟨_, ?_, ⟨[], by rwa [List.append_nil]⟩, ?_, by simp [Expectation.words], ?_⟩
  · rw [hts, declarationTokens]
    nth_rewrite 1 [hrest]
    simp
  · rintro t ht ⟨more, hd⟩
    have hd' : IsDeclaration (front ++ .opening :: (r.current ++
        r.following.flatMap (.pipe :: ·) ++ .closing :: (back ++ t :: more))) := by
      simpa [declarationTokens] using hd
    rw [isDeclaration_opening_iff hfront, readFields_complete _ hn hf] at hd'
    obtain ⟨r', hr', hpad⟩ := hd'
    obtain rfl := Except.ok.inj hr'
    rw [← skipPadding_eq_nil_iff, hskip t ht] at hpad
    cases hpad
  · intro words hw
    exact .inr ⟨List.mem_singleton.mp hw, hbefore⟩

end

/-- Where nothing opens a declaration, the first offence is what stands behind the padding. -/
theorem exists_isFirstOffence_front {ts : List Token}
    (h : ∀ t ∈ (skipPadding ts).head?, t ≠ .opening) :
    ∃ before, IsFirstOffence ts before (skipPadding ts) Expectation.opening.words := by
  obtain ⟨front, hfront, hts, hskip⟩ := exists_padding ts
  have hviable : IsViable (front ++ [.opening]) := by
    refine ⟨[.closing], front, [], [], [], hfront, .nil, by simp, .none, ?_⟩
    simp [declarationTokens]
  refine ⟨front, hts, ?_, ?_, by simp [Expectation.words], ?_⟩
  · obtain ⟨more, hd⟩ := hviable
    exact ⟨.opening :: more, by simpa using hd⟩
  · rintro t ht ⟨more, hd⟩
    rw [List.append_assoc, List.singleton_append, isDeclaration_iff] at hd
    obtain ⟨read, hd⟩ := hd
    have hne := h t ht
    rw [readDeclaration, hskip t ht] at hd
    split at hd
    · next heq => exact hne (List.cons.inj heq).1
    · cases hd
  · intro words hw
    exact .inl ⟨.opening, (List.mem_singleton.mp hw).symm, hviable⟩

/-- Whatever is no declaration is refused at its first offence. -/
theorem exists_isFirstOffence {ts : List Token} {o : Offence} (h : readDeclaration ts = .error o) :
    ∃ before, IsFirstOffence ts before o.rest o.expectation.words := by
  obtain ⟨front, hfront, hts⟩ := isPadding_skipPadding ts
  unfold readDeclaration at h
  split at h
  · next ts' hopen =>
    rw [hts, hopen]
    split at h
    · next o' hr =>
      obtain rfl := Except.error.inj h
      obtain ⟨before, inLink, hstop⟩ := exists_isStop hr
      exact ⟨_, hstop.isFirstOffence hfront⟩
    · next r hr =>
      split at h
      · cases h
      · obtain rfl := Except.error.inj h
        exact exists_isFirstOffence_behind hfront hr
  · next hopen =>
    obtain rfl := Except.error.inj h
    refine exists_isFirstOffence_front fun t ht hto => ?_
    subst hto
    obtain ⟨ts', hs⟩ := List.head?_eq_some_iff.mp ht
    exact hopen ts' hs

/-- The fault of an offence is about the token at which reading gives up, or about the end. -/
theorem fault_eq_ofSpan {source : Text} {before : List Token} {o : Offence}
    (h : tokens source = before ++ o.rest) :
    ∃ cause, o.fault source =
      .ofSpan source (spanOf before (o.rest.take 1)) cause o.expectation.words := by
  have hs : source.byteLength = sizeOfTokens before + sizeOfTokens o.rest := by
    rw [← sizeOfTokens_append, ← h, sizeOfTokens_tokens]
  cases hr : o.rest with
  | nil =>
    refine ⟨.unexpectedEnd, ?_⟩
    simp [Offence.fault, spanOf, hs, hr]
  | cons t rest =>
    refine ⟨.unexpected t, ?_⟩
    simp [Offence.fault, spanOf, hs, hr]

/-! ## Blank names and keys -/

/-- The first equals sign of the field, outside links, has nothing but white space before it. -/
def HasBlankKey (f : Field) : Prop :=
  ∃ key value, f = key ++ .equals :: value ∧ IsKey key ∧ IsBlankField key

structure IsFirstBlankKey (fields earlier : List Field) (f : Field) (later : List Field) :
    Prop where
  split : fields = earlier ++ f :: later
  not_hasBlankKey : ∀ g ∈ earlier, ¬ HasBlankKey g
  hasBlankKey : HasBlankKey f

/-- The tokens of a declaration in front of the field that follows the fields `earlier`. -/
def fieldLead (front : List Token) (name : Field) (earlier : List Field) : List Token :=
  front ++ .opening :: name ++ earlier.flatMap (.pipe :: ·) ++ [.pipe]

theorem addField?_eq_none_iff {f : Field} (hf : IsField f) (t : Template) :
    t.addField? f = none ↔ HasBlankKey f := by
  constructor
  · intro h
    rcases hf.key_or_split with hk | ⟨key, value, rfl, hk, hv⟩
    · rw [addField?_of_declares (.of_key hk)] at h
      cases h
    · refine ⟨key, value, rfl, hk, ?_⟩
      by_contra hb
      rw [hk.isField.not_isBlankField_iff] at hb
      rw [addField?_of_declares (.of_split hk hv hb)] at h
      cases h
  · rintro ⟨key, value, rfl, hk, hb⟩
    rw [hk.isField.isBlankField_iff] at hb
    have he : (contents key).trim = [] := (Text.trim_eq_nil_iff _).mpr hb
    simp [Template.addField?, splitKey_eq_some hk, he]

/-- Adding fields fails at the first one with a blank key. -/
theorem exists_isFirstBlankKey {source : Text} {fields : List Field}
    (hf : ∀ f ∈ fields, IsField f) {t : Template} {start : Nat} {fault : SyntaxFault}
    (h : Template.addFields source t start fields = .error fault) :
    ∃ earlier f later, IsFirstBlankKey fields earlier f later ∧
      let place := start + sizeOfTokens (earlier.flatMap (.pipe :: ·))
      fault = .ofSpan source ⟨place, place + sizeOfTokens f⟩ .emptyKey [] := by
  induction fields generalizing t start with
  | nil => cases h
  | cons f fields ih =>
    rw [List.forall_mem_cons] at hf
    rw [Template.addFields] at h
    split at h
    · next hnone =>
      obtain rfl := Except.error.inj h
      have hblank := (addField?_eq_none_iff hf.1 t).mp hnone
      exact ⟨[], f, fields, ⟨rfl, by simp, hblank⟩, rfl⟩
    · next t' hsome =>
      obtain ⟨earlier, g, later, hfirst, rfl⟩ := ih hf.2 h
      have hf' : ¬ HasBlankKey f := by
        rw [← addField?_eq_none_iff hf.1 t, hsome]
        simp
      refine ⟨f :: earlier, g, later, ?_, ?_⟩
      · exact
          { split := congrArg _ hfirst.split
            not_hasBlankKey := List.forall_mem_cons.mpr ⟨hf', hfirst.not_hasBlankKey⟩
            hasBlankKey := hfirst.hasBlankKey }
      · have hplace : start + sizeOfTokens f + Token.pipe.size +
            sizeOfTokens (earlier.flatMap (.pipe :: ·)) =
            start + sizeOfTokens ((f :: earlier).flatMap (.pipe :: ·)) := by
          simp
          omega
        simp only [hplace]

namespace IsLayout

section

variable {ts front back : List Token} {name : Field} {fields : List Field}
  (h : IsLayout ts front name fields back)
include h

theorem skipPadding_eq : skipPadding ts = declarationTokens name fields ++ back := by
  rw [h.split, List.append_assoc]
  exact skipPadding_of_isPadding h.isPadding_front fun t ht => by cases ht; rfl

/-- Tokens are laid out in one way only. -/
theorem unique {front' back' : List Token} {name' : Field} {fields' : List Field}
    (h' : IsLayout ts front' name' fields' back') :
    front = front' ∧ name = name' ∧ fields = fields' := by
  have hr := (readDeclaration_eq_ok_iff_isLayout ts name fields).mpr ⟨front, back, h⟩
  have hr' := (readDeclaration_eq_ok_iff_isLayout ts name' fields').mpr ⟨front', back', h'⟩
  have hread := Except.ok.inj (hr.symm.trans hr')
  obtain ⟨rfl, rfl⟩ := Prod.mk.inj hread
  have hskip := h.skipPadding_eq.symm.trans h'.skipPadding_eq
  have hsplit := h.split.symm.trans h'.split
  rw [List.append_assoc, List.append_assoc, hskip] at hsplit
  exact ⟨List.append_cancel_right hsplit, rfl, rfl⟩

theorem nameStart_eq : nameStart ts = sizeOfTokens (front ++ [.opening]) := by
  rw [nameStart, h.skipPadding_eq, h.split]
  simp only [sizeOfTokens_append, sizeOfTokens_cons, sizeOfTokens_nil]
  omega

end

end IsLayout

/-! ## Faults -/

/-- What a fault in a text is about, and what it says to be expected. -/
inductive FaultIn (source : Text) : SyntaxFault → Prop
  | blank (h : source.isBlank = true) :
      FaultIn source (.ofSpan source (spanOf [] (tokens source)) .emptyDeclaration
        Expectation.opening.words)
  | offence {before rest : List Token} {expected : List Text} (cause : Cause)
      (hd : ¬ IsDeclaration (tokens source))
      (h : IsFirstOffence (tokens source) before rest expected) :
      FaultIn source (.ofSpan source (spanOf before (rest.take 1)) cause expected)
  | name {front back : List Token} {name : Field} {fields : List Field}
      (h : IsLayout (tokens source) front name fields back)
      (hb : IsBlankField name) :
      FaultIn source (.ofSpan source (spanOf (front ++ [.opening]) name) .emptyName [])
  | key {front back : List Token} {name f : Field} {fields earlier later : List Field}
      (h : IsLayout (tokens source) front name fields back)
      (hb : ¬ IsBlankField name) (hf : IsFirstBlankKey fields earlier f later) :
      FaultIn source (.ofSpan source (spanOf (fieldLead front name earlier) f) .emptyKey [])

/-- A declaration that denotes no template is at fault in its name or in a blank key. -/
theorem faultIn_of_ofFields {source : Text} {front back : List Token} {name : Field}
    {fields : List Field} {fault : SyntaxFault}
    (h : IsLayout (tokens source) front name fields back)
    (he : Template.ofFields source (nameStart (tokens source)) name fields = .error fault) :
    FaultIn source fault := by
  rw [h.nameStart_eq, Template.ofFields] at he
  split at he
  · next hb =>
    obtain rfl := Except.error.inj he
    rw [← spanOf_eq]
    rw [Text.trim_eq_nil_iff] at hb
    exact .name h (h.isField_name.isBlankField_iff.mpr hb)
  · next hb =>
    rw [Text.trim_eq_nil_iff, ← h.isField_name.isBlankField_iff] at hb
    obtain ⟨earlier, f, later, hfirst, rfl⟩ := exists_isFirstBlankKey h.isField_fields he
    have hlead : sizeOfTokens (front ++ [.opening]) + sizeOfTokens name + Token.pipe.size +
        sizeOfTokens (earlier.flatMap (.pipe :: ·)) =
        sizeOfTokens (fieldLead front name earlier) := by
      simp only [fieldLead, sizeOfTokens_append, sizeOfTokens_cons, sizeOfTokens_nil]
      omega
    rw [hlead, ← spanOf_eq]
    exact .key h hb hfirst

theorem faultIn_of_ofText {source : Text} {fault : SyntaxFault}
    (h : Template.ofText source = .error fault) : FaultIn source fault := by
  unfold Template.ofText at h
  split at h
  · next hb =>
    obtain rfl := Except.error.inj h
    have hspan : spanOf [] (tokens source) = ⟨0, source.byteLength⟩ := by
      rw [spanOf, List.nil_append, sizeOfTokens_tokens, sizeOfTokens_nil]
    rw [← hspan]
    exact .blank hb
  · dsimp only at h
    split at h
    · next o hr =>
      obtain rfl := Except.error.inj h
      have hd : ¬ IsDeclaration (tokens source) := by
        rw [isDeclaration_iff, hr]
        simp
      obtain ⟨before, hfirst⟩ := exists_isFirstOffence hr
      obtain ⟨cause, hfault⟩ := fault_eq_ofSpan hfirst.split
      rw [hfault]
      exact .offence cause hd hfirst
    · next name fields hr =>
      obtain ⟨front, back, hl⟩ := (readDeclaration_eq_ok_iff_isLayout _ name fields).mp hr
      exact faultIn_of_ofFields hl h

theorem IsFirstOffence.cut {ts before rest : List Token} {expected : List Text}
    (h : IsFirstOffence ts before rest expected) :
    ts = before ++ rest.take 1 ++ rest.drop 1 := by
  rw [List.append_assoc, List.take_append_drop]
  exact h.split

namespace FaultIn

variable {source : Text} {fault : SyntaxFault} (h : FaultIn source fault)
include h

theorem isAbout : fault.IsAbout source := by
  cases h with
  | blank =>
    have hcut : tokens source = [] ++ tokens source ++ [] := by simp
    exact isAbout_ofSpan hcut _ _
  | offence _ _ h => exact isAbout_ofSpan h.cut _ _
  | @name front back name fields h =>
    have hcut : tokens source =
        front ++ [.opening] ++ name ++ (fields.flatMap (.pipe :: ·) ++ .closing :: back) := by
      simp [h.split, declarationTokens]
    exact isAbout_ofSpan hcut _ _
  | @key front back name f fields earlier later h _ hf =>
    have hcut : tokens source =
        fieldLead front name earlier ++ f ++ (later.flatMap (.pipe :: ·) ++ .closing :: back) := by
      simp [h.split, hf.split, declarationTokens, fieldLead]
    exact isAbout_ofSpan hcut _ _

theorem exists_isFirstOffence (hb : source.isBlank = false)
    (hd : ¬ IsDeclaration (tokens source)) :
    ∃ before rest, IsFirstOffence (tokens source) before rest fault.expected ∧
      fault.span = spanOf before (rest.take 1) ∧ fault.fragment = sources (rest.take 1) := by
  cases h with
  | blank hb' =>
    rw [hb] at hb'
    cases hb'
  | @offence before rest _ _ _ h => exact ⟨before, rest, h, rfl, fragment_ofSpan h.cut _ _⟩
  | name h => exact absurd ⟨_, _, _, _, h⟩ hd
  | key h => exact absurd ⟨_, _, _, _, h⟩ hd

theorem blank_name_or_key {front back : List Token} {name : Field} {fields : List Field}
    (hl : IsLayout (tokens source) front name fields back) :
    (IsBlankField name ∧ fault.span = spanOf (front ++ [.opening]) name) ∨
      (¬ IsBlankField name ∧
        ∃ earlier f later, IsFirstBlankKey fields earlier f later ∧
          fault.span = spanOf (fieldLead front name earlier) f) := by
  cases h with
  | blank hb =>
    rw [isBlank_of_tokens hl.split] at hb
    cases hb
  | offence _ hd => exact absurd ⟨_, _, _, _, hl⟩ hd
  | name h hb =>
    obtain ⟨rfl, rfl, rfl⟩ := h.unique hl
    exact .inl ⟨hb, rfl⟩
  | key h hb hf =>
    obtain ⟨rfl, rfl, rfl⟩ := h.unique hl
    exact .inr ⟨hb, _, _, _, hf, rfl⟩

end FaultIn

/-- A fault is about a piece of the text. If the text is no declaration, the piece is the first
offence, or nothing at the end, and what is expected could stand there; if it is one, the piece is
the blank name or the first field with a blank key. -/
theorem ofText_error {source : Text} {fault : SyntaxFault}
    (h : Template.ofText source = .error fault) :
    fault.IsAbout source ∧
      (source.isBlank = false → ¬ IsDeclaration (tokens source) →
        ∃ before rest, IsFirstOffence (tokens source) before rest fault.expected ∧
          match rest with
          | [] => fault.span = ⟨source.byteLength, source.byteLength⟩ ∧ fault.fragment = []
          | t :: _ => fault.span = spanOf before [t]) ∧
      ∀ front name fields back, IsLayout (tokens source) front name fields back →
        (IsBlankField name ∧ fault.span = spanOf (front ++ [.opening]) name) ∨
          (¬ IsBlankField name ∧
            ∃ earlier f later, IsFirstBlankKey fields earlier f later ∧
              fault.span = spanOf (fieldLead front name earlier) f) := by
  have hfault := faultIn_of_ofText h
  refine ⟨hfault.isAbout, fun hb hd => ?_, fun _ _ _ _ hl => hfault.blank_name_or_key hl⟩
  obtain ⟨before, rest, hfirst, hspan, hfragment⟩ := hfault.exists_isFirstOffence hb hd
  refine ⟨before, rest, hfirst, ?_⟩
  cases rest with
  | nil =>
    have hbefore : before = tokens source := by simpa using hfirst.split.symm
    rw [List.take_nil, spanOf, List.append_nil, hbefore, sizeOfTokens_tokens] at hspan
    exact ⟨hspan, hfragment⟩
  | cons t rest => exact hspan

/-- A link that is still open lets no closing braces end the field. -/
theorem ofText_error_openLink :
    let source : Text := "\x7b\x7bXß|[[a\x7d\x7d"
    let fault : SyntaxFault := ⟨⟨9, 11⟩, "\x7d\x7d", .unexpected .closing, ["']]'"]⟩
    Template.ofText source = .error fault ∧ fault.IsAbout source ∧
      ∃ before rest, IsFirstOffence (tokens source) before rest fault.expected ∧
        match rest with
        | [] => fault.span = ⟨source.byteLength, source.byteLength⟩ ∧ fault.fragment = []
        | t :: _ => fault.span = spanOf before [t] := by
  intro source fault
  have hread : readDeclaration (tokens source) = .error ⟨[.closing], .linkEnd⟩ := by
    decide +kernel
  have h : Template.ofText source = .error fault := by
    rw [Template.ofText, if_neg (by decide)]
    simp only [hread]
    exact congrArg _ (by decide)
  have hd : ¬ IsDeclaration (tokens source) := by
    rw [isDeclaration_iff, hread]
    simp
  have herror := ofText_error h
  exact ⟨h, herror.1, herror.2.1 (by decide) hd⟩

end WikiAxioms.Markup
