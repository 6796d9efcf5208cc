import WikiAxioms.Proofs.Markup.RoundTrip

/-!
# Declarations put together from fields

A text that has no braces, leaves no marker open and closes its links says by itself what it is as a
field: neither how it is cut into tokens nor how it is read depends on its neighbours. A declaration
of such fields is therefore read if and only if each of them can be read, and the arguments are
those of the fields.
-/

namespace WikiAxioms.Markup

/-- Whether all links are closed in the end, `depth` of which are open at first, and separators
stand in links only. An opening in a link may open another one, or be text. -/
def closesLinks : Nat → List Token → Bool
  | depth, [] => depth == 0
  | depth, .linkOpening :: ts =>
    closesLinks (depth + 1) ts || (depth != 0 && closesLinks depth ts)
  | depth, .linkClosing :: ts => closesLinks (depth - 1) ts
  | depth, .pipe :: ts => depth != 0 && closesLinks depth ts
  | depth, _ :: ts => closesLinks depth ts

/-- Texts that reach into no other field: they have no brace, close their links and markers, and
hold separators in links only. -/
structure IsSelfContained (t : Text) : Prop where
  noBrace : ∀ k ∈ tokens t, k.isBrace = false
  terminated : .char nowikiOpening ∉ tokens t
  links : closesLinks 0 (tokens t) = true

instance (t : Text) : Decidable (IsSelfContained t) :=
  decidable_of_iff ((∀ k ∈ tokens t, k.isBrace = false) ∧ .char nowikiOpening ∉ tokens t ∧
      closesLinks 0 (tokens t) = true)
    ⟨fun h => ⟨h.1, h.2.1, h.2.2⟩, fun h => ⟨h.noBrace, h.terminated, h.links⟩⟩

/-- The declaration with a name and fields that are written out. -/
def declarationText (name : Text) (fields : List Text) : Text :=
  ['\x7b', '\x7b'] ++ name ++ fields.flatMap ('|' :: ·) ++ ['\x7d', '\x7d']

/-! ## Cutting -/

/-- The tokens of a declaration are those of its fields. -/
theorem tokens_declarationText {name : Text} {fields : List Text}
    (h : ∀ x ∈ name :: fields, IsSelfContained x) :
    tokens (declarationText name fields) = declarationTokens (tokens name) (fields.map tokens) :=
  tokens_declaration name fields (fun x hx => getLast?_ne_of_noBrace (h x hx).noBrace)
    fun x hx => (h x (List.dropLast_subset _ hx)).terminated

/-! ## Reading -/

theorem fitsField_of_noBrace {k : Token} (h : k.isBrace = false) :
    k = .linkOpening ∨ k = .pipe ∨ k.fitsField = true := by
  cases k <;> simp_all [Token.isBrace, Token.fitsField, Token.isPlain]

theorem fitsLink_of_noBrace {k : Token} (h : k.isBrace = false) :
    k = .linkOpening ∨ k = .linkClosing ∨ k.fitsLink = true := by
  cases k <;> simp_all [Token.isBrace, Token.fitsLink, Token.isPlain]

theorem closesLinks_of_fitsField {k : Token} (h : k.fitsField = true) (f : Field) :
    closesLinks 0 (k :: f) = closesLinks 0 f := by
  cases k <;> first | rfl | cases h

theorem closesLinks_of_fitsLink {k : Token} (h : k.fitsLink = true) (f : Field) :
    closesLinks 1 (k :: f) = closesLinks 1 f := by
  cases k <;> first | rfl | cases h

/-- If anything is read that starts with a self-contained field, then the field is one of the
grammar, and what follows it is read too. -/
theorem isRemainder_of_readFields (inLink : Bool) {f : Field} {ts : List Token} {r : Reading}
    (hb : ∀ k ∈ f, k.isBrace = false) (hc : closesLinks inLink.toNat f = true)
    (h : readFields inLink (f ++ ts) = .ok r) :
    IsRemainder inLink f ∧ ∃ r', readFields false ts = .ok r' := by
  induction f generalizing inLink r with
  | nil =>
    cases inLink with
    | false => exact ⟨.nil, r, h⟩
    | true => cases hc
  | cons k f ih =>
    rw [List.forall_mem_cons] at hb
    rw [List.cons_append] at h
    cases inLink with
    | false =>
      rcases fitsField_of_noBrace hb.1 with rfl | rfl | hk
      · rw [readFields_linkOpening] at h
        obtain ⟨r, hr, -⟩ := exists_ok_of_map_eq_ok h
        have hc : closesLinks 1 f = true := by simpa [closesLinks] using hc
        obtain ⟨⟨parts, g, rfl, hp, hg⟩, hts⟩ := ih true hb.2 hc hr
        have hl : IsField (.linkOpening :: parts ++ [.linkClosing] ++ g) := .link (.mk hp) hg
        rw [List.append_assoc] at hl
        exact ⟨hl, hts⟩
      · cases hc
      · rw [readFields_of_fitsField hk] at h
        obtain ⟨r, hr, -⟩ := exists_ok_of_map_eq_ok h
        obtain ⟨hf, hts⟩ := ih false hb.2 ((closesLinks_of_fitsField hk f).symm.trans hc) hr
        exact ⟨.token ((fitsField_iff k).mp hk) hf, hts⟩
    | true =>
      rcases fitsLink_of_noBrace hb.1 with rfl | rfl | hk
      · -- a link has no link in it
        cases h
      · rw [readFields_linkClosing] at h
        obtain ⟨r, hr, -⟩ := exists_ok_of_map_eq_ok h
        obtain ⟨hf, hts⟩ := ih false hb.2 hc hr
        exact ⟨⟨[], f, rfl, by simp, hf⟩, hts⟩
      · rw [readFields_of_fitsLink hk] at h
        obtain ⟨r, hr, -⟩ := exists_ok_of_map_eq_ok h
        obtain ⟨⟨parts, g, rfl, hp, hg⟩, hts⟩ :=
          ih true hb.2 ((closesLinks_of_fitsLink hk f).symm.trans hc) hr
        have hp' := List.forall_mem_cons.mpr ⟨(fitsLink_iff k).mp hk, hp⟩
        exact ⟨⟨k :: parts, g, rfl, hp', hg⟩, hts⟩

/-- If a declaration of self-contained fields is read, they are all fields of the grammar. -/
theorem isField_of_readFields {name : Text} {fields : List Text} {rest : List Token} {r : Reading}
    (hs : ∀ x ∈ name :: fields, IsSelfContained x)
    (h : readFields false
      (tokens name ++ (fields.map tokens).flatMap (.pipe :: ·) ++ .closing :: rest) = .ok r) :
    ∀ x ∈ name :: fields, IsField (tokens x) := by
  induction fields generalizing name r with
  | nil =>
    rw [List.forall_mem_cons] at hs
    rw [List.append_assoc] at h
    have hn := (isRemainder_of_readFields false hs.1.noBrace hs.1.links h).1
    exact List.forall_mem_cons.mpr ⟨hn, by simp⟩
  | cons f fields ih =>
    rw [List.forall_mem_cons] at hs
    rw [List.append_assoc] at h
    obtain ⟨hn, r', hr⟩ := isRemainder_of_readFields false hs.1.noBrace hs.1.links h
    rw [List.map_cons, List.flatMap_cons, List.cons_append, List.cons_append,
      readFields_pipe] at hr
    obtain ⟨r'', hr, -⟩ := exists_ok_of_map_eq_ok hr
    exact List.forall_mem_cons.mpr ⟨hn, ih hs.2 hr⟩

/-- Nothing but the fields themselves is read from a declaration of self-contained fields. -/
theorem eq_of_readDeclaration {name : Text} {fields : List Text} {read : Field × List Field}
    (hs : ∀ x ∈ name :: fields, IsSelfContained x)
    (h : readDeclaration (declarationTokens (tokens name) (fields.map tokens)) = .ok read) :
    read = (tokens name, fields.map tokens) := by
  have hf : ∀ x ∈ name :: fields, IsField (tokens x) := by
    have hd : skipPadding (declarationTokens (tokens name) (fields.map tokens)) =
        .opening :: (tokens name ++ (fields.map tokens).flatMap (.pipe :: ·) ++ [.closing]) := by
      simp [declarationTokens, skipPadding, Token.isPadding]
    rw [readDeclaration, hd] at h
    cases hr : readFields false
        (tokens name ++ (fields.map tokens).flatMap (.pipe :: ·) ++ [.closing]) with
    | error o =>
      simp only [hr] at h
      cases h
    | ok r => exact isField_of_readFields hs hr
  rw [List.forall_mem_cons] at hf
  have hd : readDeclaration (declarationTokens (tokens name) (fields.map tokens)) =
      .ok (tokens name, fields.map tokens) :=
    (readDeclaration_eq_ok_iff _ _ _).mpr
      ⟨[], [], .none, hf.1, by simpa using hf.2, .none, by simp⟩
  exact Except.ok.inj (h.symm.trans hd)

/-- A declaration of self-contained fields is read if each of them declares an argument. -/
theorem ofText_declarationText_eq_ok_iff {name : Text} {fields : List Text} {t : Template}
    (hs : ∀ x ∈ name :: fields, IsSelfContained x) :
    Template.ofText (declarationText name fields) = .ok t ↔
      IsField (tokens name) ∧ (contents (tokens name)).isBlank = false ∧
        ∃ arguments, List.Forall₂ Declares (fields.map tokens) arguments ∧
          t = .ofArguments (contents (tokens name)).trim arguments := by
  rw [ofText_eq_ok_iff_denotes, denotes_iff, tokens_declarationText hs]
  constructor
  · rintro ⟨front, name', fields', back, arguments, hts, hfront, hn, hback, hb, ha, rfl⟩
    have hr := (readDeclaration_eq_ok_iff _ name' fields').mpr
      ⟨front, back, hfront, hn, isField_of_forall₂_declares ha, hback, hts⟩
    obtain ⟨rfl, rfl⟩ := Prod.mk.inj (eq_of_readDeclaration hs hr)
    exact ⟨hn, hb, arguments, ha, rfl⟩
  · rintro ⟨hn, hb, arguments, ha, rfl⟩
    exact ⟨[], _, _, [], arguments, by simp, .none, hn, .none, hb, ha, rfl⟩

end WikiAxioms.Markup
