import WikiAxioms.Markup.Declaration
import WikiAxioms.Proofs.Entries
import WikiAxioms.Proofs.Text.Trim

/-!
# The grammar of declarations

Which lists of tokens are declarations, and which template each of them denotes, said without
reading from left to right. A field is a sequence of closed links and of tokens outside links; its
first equals sign outside links, if it has one, makes it a named argument. A field carries the text
of its tokens, without nowiki markers and with the brackets of links. The main statement is that
reading a text succeeds exactly when its tokens denote a template, with that template.
-/

namespace WikiAxioms.Markup

/-- Tokens that are text wherever they stand. -/
inductive IsWord : Token → Prop
  | text (s : Text) : IsWord (.text s)
  | char (s : Text) : IsWord (.char s)
  | nowiki (body : Text) : IsWord (.nowiki body)

/-- Tokens between the brackets of a link. -/
inductive IsLinkPart : Token → Prop
  | word {t : Token} : IsWord t → IsLinkPart t
  | equals : IsLinkPart .equals
  | pipe : IsLinkPart .pipe

/-- Tokens of a key outside links; a closing of no link is text. -/
inductive IsKeyToken : Token → Prop
  | word {t : Token} : IsWord t → IsKeyToken t
  | closing : IsKeyToken .linkClosing

/-- Tokens of a field outside links. -/
inductive IsFieldToken : Token → Prop
  | key {t : Token} : IsKeyToken t → IsFieldToken t
  | equals : IsFieldToken .equals

/-- A link that is closed. -/
inductive IsLink : List Token → Prop
  | mk {parts : List Token} (h : ∀ t ∈ parts, IsLinkPart t) :
      IsLink (.linkOpening :: parts ++ [.linkClosing])

/-- A sequence of closed links and of tokens of the kind `outside`. -/
inductive Pieces (outside : Token → Prop) : Field → Prop
  | nil : Pieces outside []
  | token {t : Token} {f : Field} : outside t → Pieces outside f → Pieces outside (t :: f)
  | link {l f : Field} : IsLink l → Pieces outside f → Pieces outside (l ++ f)

abbrev IsField : Field → Prop := Pieces IsFieldToken

/-- A field without an equals sign outside links. -/
abbrev IsKey : Field → Prop := Pieces IsKeyToken

/-- White space, in one token, or nothing. -/
inductive IsPadding : List Token → Prop
  | none : IsPadding []
  | some {s : Text} (h : ∀ c ∈ s, isSpace c = true) : IsPadding [.text s]

/-- What a token stands for in the text of a field: markers are dropped and brackets kept. -/
inductive StandsFor : Token → Text → Prop
  | text (s : Text) : StandsFor (.text s) s
  | char (s : Text) : StandsFor (.char s) s
  | nowiki (body : Text) : StandsFor (.nowiki body) body
  | equals : StandsFor .equals ['=']
  | pipe : StandsFor .pipe ['|']
  | linkOpening : StandsFor .linkOpening ['[', '[']
  | linkClosing : StandsFor .linkClosing [']', ']']

/-- The text of a field. -/
inductive Carries : Field → Text → Prop
  | nil : Carries [] []
  | cons {k : Token} {f : Field} {x y : Text} :
      StandsFor k x → Carries f y → Carries (k :: f) (x ++ y)

def IsBlankField (f : Field) : Prop := ∃ x, Carries f x ∧ ∀ c ∈ x, isSpace c = true

/-- A name or a key: the text of the field without the white space around it, if that leaves
anything. -/
def HasLabel (f : Field) (label : Text) : Prop :=
  label ≠ [] ∧ ∃ x, Carries f x ∧ Text.TrimsTo x label

/-- The value that a text stands for; white space that surrounds nothing is a value. -/
inductive IsValueOf : Text → Text → Prop
  | blank {x : Text} (h : ∀ c ∈ x, isSpace c = true) : IsValueOf x x
  | trimmed {x v : Text} (h : Text.TrimsTo x v) (hn : v ≠ []) : IsValueOf x v

def HasValue (f : Field) (v : Text) : Prop := ∃ x, Carries f x ∧ IsValueOf x v

/-- What a field adds to a template. -/
inductive Argument where
  | positional (value : Text)
  | named (key value : Text)

/-- The argument that a field declares; a blank key declares nothing. -/
inductive Declares : Field → Argument → Prop
  | positional {f : Field} {v : Text} (h : IsKey f) (hv : HasValue f v) :
      Declares f (.positional v)
  | named {key value : Field} {k v : Text} (hk : IsKey key) (hl : HasLabel key k)
      (hf : IsField value) (hv : HasValue value v) :
      Declares (key ++ .equals :: value) (.named k v)

def Argument.positional? : Argument → Option Text
  | .positional value => some value
  | .named .. => none

def Argument.named? : Argument → Option (Text × Text)
  | .positional _ => none
  | .named key value => some (key, value)

/-- The template with the given name and arguments. -/
def Template.ofArguments (name : Text) (arguments : List Argument) : Template :=
  ⟨name, arguments.filterMap Argument.positional?, .ofList (arguments.filterMap Argument.named?)⟩

/-- The template has the positional arguments in order, and the named ones as they are set one after
another, a later value of a key taking the place of an earlier one. -/
structure Template.Collects (t : Template) (arguments : List Argument) : Prop where
  positional : t.positional = arguments.filterMap Argument.positional?
  named : AreSet (arguments.filterMap Argument.named?) [] t.named.entries

/-- The tokens that declare a template with the given name field and further fields. -/
def declarationTokens (name : Field) (fields : List Field) : List Token :=
  .opening :: name ++ fields.flatMap (.pipe :: ·) ++ [.closing]

/-- The tokens of a declaration and the template that they denote. -/
def Denotes (ts : List Token) (t : Template) : Prop :=
  ∃ front name fields back arguments,
    ts = front ++ declarationTokens name fields ++ back ∧
    IsPadding front ∧ IsField name ∧ IsPadding back ∧
    HasLabel name t.name ∧ List.Forall₂ Declares fields arguments ∧ t.Collects arguments

namespace Pieces

variable {outside : Token → Prop}

theorem append {f g : Field} (hf : Pieces outside f) (hg : Pieces outside g) :
    Pieces outside (f ++ g) := by
  induction hf with
  | nil => exact hg
  | token ht _ ih => exact .token ht ih
  | link hl _ ih => rw [List.append_assoc]; exact .link hl ih

theorem mono {inside : Token → Prop} (h : ∀ t, inside t → outside t) {f : Field}
    (hf : Pieces inside f) : Pieces outside f := by
  induction hf with
  | nil => exact .nil
  | token ht _ ih => exact .token (h _ ht) ih
  | link hl _ ih => exact .link hl ih

theorem of_forall {f : Field} (h : ∀ t ∈ f, outside t) : Pieces outside f := by
  induction f with
  | nil => exact .nil
  | cons t f ih =>
    rw [List.forall_mem_cons] at h
    exact .token h.1 (ih h.2)

end Pieces

theorem IsKey.isField {f : Field} (h : IsKey f) : IsField f := h.mono fun _ => .key

/-- A field is a key, or its first equals sign outside links splits it into a key and a value. -/
theorem IsField.key_or_split {f : Field} (h : IsField f) :
    IsKey f ∨ ∃ key value, f = key ++ .equals :: value ∧ IsKey key ∧ IsField value := by
  induction h with
  | nil => exact .inl .nil
  | @token t f ht hf ih =>
    cases ht with
    | equals => exact .inr ⟨[], f, rfl, .nil, hf⟩
    | key ht =>
      rcases ih with ih | ⟨key, value, rfl, hk, hv⟩
      · exact .inl (.token ht ih)
      · exact .inr ⟨t :: key, value, rfl, .token ht hk, hv⟩
  | @link l f hl _ ih =>
    rcases ih with ih | ⟨key, value, rfl, hk, hv⟩
    · exact .inl (.link hl ih)
    · exact .inr ⟨l ++ key, value, by simp, .link hl hk, hv⟩

theorem Declares.isField {f : Field} {a : Argument} (h : Declares f a) : IsField f := by
  cases h with
  | positional h _ => exact h.isField
  | named hk _ hf _ => exact hk.isField.append (.token .equals hf)

theorem isField_of_forall₂_declares {fields : List Field} {arguments : List Argument}
    (h : List.Forall₂ Declares fields arguments) : ∀ f ∈ fields, IsField f := by
  induction h with
  | nil => simp
  | cons ha _ ih => exact List.forall_mem_cons.mpr ⟨ha.isField, ih⟩

/-! ## The text of a field -/

theorem StandsFor.content_eq {k : Token} {x : Text} (h : StandsFor k x) : k.content = x := by
  cases h <;> rfl

theorem Carries.contents_eq {f : Field} {x : Text} (h : Carries f x) : contents f = x := by
  induction h with
  | nil => rfl
  | cons hk _ ih => rw [← hk.content_eq, ← ih, contents, contents, List.flatMap_cons]

theorem IsWord.standsFor {k : Token} (h : IsWord k) : StandsFor k k.content := by
  cases h with
  | text s => exact .text s
  | char s => exact .char s
  | nowiki body => exact .nowiki body

theorem IsLinkPart.standsFor {k : Token} (h : IsLinkPart k) : StandsFor k k.content := by
  cases h with
  | word h => exact h.standsFor
  | equals => exact .equals
  | pipe => exact .pipe

theorem IsFieldToken.standsFor {k : Token} (h : IsFieldToken k) : StandsFor k k.content := by
  rcases h with ⟨h | ⟨⟩⟩ | ⟨⟩
  · exact h.standsFor
  · exact .linkClosing
  · exact .equals

theorem carries_of_forall {f : Field} (h : ∀ k ∈ f, StandsFor k k.content) :
    Carries f (contents f) := by
  induction f with
  | nil => exact .nil
  | cons k f ih =>
    rw [List.forall_mem_cons] at h
    exact .cons h.1 (ih h.2)

theorem IsField.standsFor {f : Field} (h : IsField f) : ∀ k ∈ f, StandsFor k k.content := by
  induction h with
  | nil => simp
  | token ht _ ih => exact List.forall_mem_cons.mpr ⟨ht.standsFor, ih⟩
  | link hl _ ih =>
    obtain ⟨hp⟩ := hl
    simp only [List.forall_mem_append, List.forall_mem_cons]
    exact ⟨⟨⟨.linkOpening, fun k hk => (hp k hk).standsFor⟩, .linkClosing, by simp⟩, ih⟩

/-- Every field carries one text. -/
theorem IsField.carries_iff {f : Field} (h : IsField f) (x : Text) :
    Carries f x ↔ x = contents f := by
  constructor
  · exact fun hx => hx.contents_eq.symm
  · rintro rfl
    exact carries_of_forall h.standsFor

theorem IsField.isBlankField_iff {f : Field} (h : IsField f) :
    IsBlankField f ↔ (contents f).isBlank = true := by
  simp only [IsBlankField, h.carries_iff, exists_eq_left, Text.isBlank, List.all_eq_true]

theorem IsField.not_isBlankField_iff {f : Field} (h : IsField f) :
    ¬ IsBlankField f ↔ (contents f).isBlank = false := by
  rw [h.isBlankField_iff, Bool.not_eq_true]

theorem IsField.hasLabel_iff {f : Field} (h : IsField f) (label : Text) :
    HasLabel f label ↔ (contents f).isBlank = false ∧ label = (contents f).trim := by
  simp only [HasLabel, h.carries_iff, exists_eq_left, Text.trimsTo_iff]
  refine and_congr_left ?_
  rintro rfl
  rw [Ne, Text.trim_eq_nil_iff, Bool.not_eq_true]

theorem isValueOf_iff (x v : Text) : IsValueOf x v ↔ v = trimValue x := by
  have hb : x.trim = [] ↔ ∀ c ∈ x, isSpace c = true := by
    rw [Text.trim_eq_nil_iff, Text.isBlank, List.all_eq_true]
  constructor
  · rintro (h | ⟨h, hn⟩)
    · rw [trimValue, if_pos (hb.mpr h)]
    · rw [Text.trimsTo_iff] at h
      subst h
      rw [trimValue, if_neg hn]
  · rintro rfl
    by_cases h : x.trim = []
    · rw [trimValue, if_pos h]
      exact .blank (hb.mp h)
    · rw [trimValue, if_neg h]
      exact .trimmed (Text.trimsTo_trim x) h

theorem IsField.hasValue_iff {f : Field} (h : IsField f) (v : Text) :
    HasValue f v ↔ v = trimValue (contents f) := by
  simp only [HasValue, h.carries_iff, exists_eq_left, isValueOf_iff]

/-- The argument of a field is read off the texts of its key and of its value. -/
theorem declares_iff {f : Field} {a : Argument} : Declares f a ↔
    (IsKey f ∧ a = .positional (trimValue (contents f))) ∨
    ∃ key value, f = key ++ .equals :: value ∧ IsKey key ∧ IsField value ∧
      (contents key).isBlank = false ∧
      a = .named (contents key).trim (trimValue (contents value)) := by
  constructor
  · rintro (⟨h, hv⟩ | ⟨hk, hl, hf, hv⟩)
    · rw [h.isField.hasValue_iff] at hv
      exact .inl ⟨h, congrArg _ hv⟩
    · rw [hk.isField.hasLabel_iff] at hl
      rw [hf.hasValue_iff] at hv
      exact .inr ⟨_, _, rfl, hk, hf, hl.1, congrArg₂ _ hl.2 hv⟩
  · rintro (⟨h, rfl⟩ | ⟨key, value, rfl, hk, hf, hb, rfl⟩)
    · exact .positional h ((h.isField.hasValue_iff _).mpr rfl)
    · exact .named hk ((hk.isField.hasLabel_iff _).mpr ⟨hb, rfl⟩) hf ((hf.hasValue_iff _).mpr rfl)

theorem Declares.of_key {f : Field} (h : IsKey f) :
    Declares f (.positional (trimValue (contents f))) :=
  declares_iff.mpr (.inl ⟨h, rfl⟩)

theorem Declares.of_split {key value : Field} (hk : IsKey key) (hf : IsField value)
    (hb : (contents key).isBlank = false) :
    Declares (key ++ .equals :: value)
      (.named (contents key).trim (trimValue (contents value))) :=
  declares_iff.mpr (.inr ⟨key, value, rfl, hk, hf, hb, rfl⟩)

theorem NamedArguments.eq_of_entries {a b : NamedArguments} (h : a.entries = b.entries) :
    a = b := by
  cases a
  cases b
  congr

theorem entries_ofList (es : List (Text × Text)) :
    (NamedArguments.ofList es).entries = es.foldl (fun es e => setEntry e.1 e.2 es) [] :=
  (List.foldl_hom NamedArguments.entries fun _ _ => rfl).symm

theorem Template.collects_iff {t : Template} {arguments : List Argument} :
    t.Collects arguments ↔ t = .ofArguments t.name arguments := by
  constructor
  · rintro ⟨hp, hn⟩
    rw [areSet_iff, ← entries_ofList] at hn
    rw [Template.ofArguments, ← hp, ← NamedArguments.eq_of_entries hn]
  · intro h
    rw [h]
    exact ⟨rfl, areSet_iff.mpr (entries_ofList _)⟩

/-- The template is read off the texts of the name and of the fields. -/
theorem denotes_iff {ts : List Token} {t : Template} : Denotes ts t ↔
    ∃ front name fields back arguments,
      ts = front ++ declarationTokens name fields ++ back ∧
      IsPadding front ∧ IsField name ∧ IsPadding back ∧
      (contents name).isBlank = false ∧ List.Forall₂ Declares fields arguments ∧
      t = .ofArguments (contents name).trim arguments := by
  constructor
  · rintro ⟨front, name, fields, back, arguments, hts, hfront, hn, hback, hl, ha, ht⟩
    obtain ⟨hb, hname⟩ := (hn.hasLabel_iff _).mp hl
    exact ⟨front, name, fields, back, arguments, hts, hfront, hn, hback, hb, ha,
      hname ▸ Template.collects_iff.mp ht⟩
  · rintro ⟨front, name, fields, back, arguments, hts, hfront, hn, hback, hb, ha, rfl⟩
    exact ⟨front, name, fields, back, arguments, hts, hfront, hn, hback,
      (hn.hasLabel_iff _).mpr ⟨hb, rfl⟩, ha, Template.collects_iff.mpr rfl⟩

/-! ## Reading fields -/

theorem isPlain_iff (t : Token) : t.isPlain = true ↔ IsWord t := by
  constructor
  · intro h
    cases t with
    | text s => exact .text s
    | char s => exact .char s
    | nowiki s => exact .nowiki s
    | _ => simp [Token.isPlain] at h
  · intro h
    cases h <;> rfl

theorem fitsLink_iff (t : Token) : t.fitsLink = true ↔ IsLinkPart t := by
  simp only [Token.fitsLink, Bool.or_eq_true, isPlain_iff, beq_iff_eq]
  constructor
  · rintro ((h | rfl) | rfl)
    · exact .word h
    · exact .equals
    · exact .pipe
  · intro h
    cases h with
    | word h => exact .inl (.inl h)
    | equals => exact .inl (.inr rfl)
    | pipe => exact .inr rfl

theorem fitsField_iff (t : Token) : t.fitsField = true ↔ IsFieldToken t := by
  simp only [Token.fitsField, Bool.or_eq_true, isPlain_iff, beq_iff_eq]
  constructor
  · rintro ((h | rfl) | rfl)
    · exact .key (.word h)
    · exact .equals
    · exact .key .closing
  · intro h
    cases h with
    | equals => exact .inl (.inr rfl)
    | key h =>
      cases h with
      | word h => exact .inl (.inl h)
      | closing => exact .inr rfl

theorem readFields_linkOpening (ts : List Token) :
    readFields false (.linkOpening :: ts) = (readFields true ts).map (.push .linkOpening) := by
  simp [readFields]

theorem readFields_linkClosing (ts : List Token) :
    readFields true (.linkClosing :: ts) = (readFields false ts).map (.push .linkClosing) := by
  simp [readFields]

theorem readFields_pipe (ts : List Token) :
    readFields false (.pipe :: ts) = (readFields false ts).map .separate := by
  simp [readFields]

theorem readFields_of_fitsField {k : Token} (h : k.fitsField = true) (ts : List Token) :
    readFields false (k :: ts) = (readFields false ts).map (.push k) := by
  cases k <;> simp [readFields, Token.fitsField, Token.isPlain] at h ⊢

theorem readFields_of_fitsLink {k : Token} (h : k.fitsLink = true) (ts : List Token) :
    readFields true (k :: ts) = (readFields true ts).map (.push k) := by
  cases k <;> simp [readFields, Token.fitsLink, Token.isPlain] at h ⊢

/-- Parts of a link are read without an effect on what follows them. -/
theorem readFields_linkParts {parts ts : List Token} {r : Reading}
    (hp : ∀ t ∈ parts, IsLinkPart t) (h : readFields true ts = .ok r) :
    readFields true (parts ++ ts) = .ok { r with current := parts ++ r.current } := by
  induction parts with
  | nil => exact h
  | cons t parts ih =>
    rw [List.forall_mem_cons] at hp
    rw [List.cons_append, readFields_of_fitsLink ((fitsLink_iff t).mpr hp.1), ih hp.2]
    rfl

/-- A field is read without an effect on what follows it. -/
theorem readFields_field {f : Field} (hf : IsField f) {ts : List Token} {r : Reading}
    (h : readFields false ts = .ok r) :
    readFields false (f ++ ts) = .ok { r with current := f ++ r.current } := by
  induction hf with
  | nil => exact h
  | @token t f ht _ ih =>
    rw [List.cons_append, readFields_of_fitsField ((fitsField_iff t).mpr ht), ih]
    rfl
  | @link l f hl _ ih =>
    obtain ⟨hp⟩ := hl
    rename_i parts
    have hc : readFields true (.linkClosing :: (f ++ ts)) =
        .ok { r with current := .linkClosing :: (f ++ r.current) } := by
      rw [readFields_linkClosing, ih]
      rfl
    have hl := readFields_linkParts hp hc
    simp only [List.append_assoc, List.cons_append, List.nil_append, readFields_linkOpening, hl]
    rfl

/-- Everything that the grammar calls fields is read as those fields. -/
theorem readFields_complete {name : Field} {fields : List Field} (rest : List Token)
    (hn : IsField name) (hf : ∀ f ∈ fields, IsField f) :
    readFields false (name ++ fields.flatMap (.pipe :: ·) ++ .closing :: rest) =
      .ok ⟨name, fields, rest⟩ := by
  induction fields generalizing name with
  | nil =>
    have h : readFields false (.closing :: rest) = .ok ⟨[], [], rest⟩ := by simp [readFields]
    simpa using readFields_field hn h
  | cons f fields ih =>
    rw [List.forall_mem_cons] at hf
    have h : readFields false (.pipe :: (f ++ fields.flatMap (.pipe :: ·) ++ .closing :: rest)) =
        .ok ⟨[], f :: fields, rest⟩ := by
      rw [readFields_pipe, ih hf.1 hf.2]
      rfl
    simpa using readFields_field hn h

/-- A result under a function comes from a result. -/
theorem exists_ok_of_map_eq_ok {ε α β : Type} {x : Except ε α} {f : α → β} {b : β}
    (h : x.map f = .ok b) : ∃ a, x = .ok a ∧ f a = b := by
  cases x with
  | error e => cases h
  | ok a => exact ⟨a, rfl, Except.ok.inj h⟩

/-- What has been read of a field when a link in it may still be open. -/
def IsRemainder (inLink : Bool) (f : Field) : Prop :=
  if inLink then ∃ parts g, f = parts ++ .linkClosing :: g ∧ (∀ t ∈ parts, IsLinkPart t) ∧ IsField g
  else IsField f

theorem IsRemainder.of_isField {inLink : Bool} (h : ¬ inLink = true) {f : Field}
    (hf : IsField f) : IsRemainder inLink f := by
  rwa [IsRemainder, if_neg h]

/-- What is read are fields of the grammar, and nothing is lost. -/
theorem readFields_sound {inLink : Bool} {ts : List Token} {r : Reading}
    (h : readFields inLink ts = .ok r) :
    IsRemainder inLink r.current ∧ (∀ f ∈ r.following, IsField f) ∧
      ts = r.current ++ r.following.flatMap (.pipe :: ·) ++ .closing :: r.rest := by
  fun_induction readFields inLink ts generalizing r with
  | case1 => cases h
  | case2 ts ih =>
    obtain ⟨r, hr, rfl⟩ := exists_ok_of_map_eq_ok h
    obtain ⟨hc, hf, rfl⟩ := ih hr
    exact ⟨⟨[], r.current, rfl, by simp, hc⟩, hf, rfl⟩
  | case3 t ts _ hfits ih =>
    obtain ⟨r, hr, rfl⟩ := exists_ok_of_map_eq_ok h
    obtain ⟨⟨parts, g, hg, hp, hf⟩, hfs, rfl⟩ := ih hr
    refine ⟨⟨t :: parts, g, ?_, ?_, hf⟩, hfs, rfl⟩
    · simp [Reading.push, hg]
    · exact List.forall_mem_cons.mpr ⟨(fitsLink_iff t).mp hfits, hp⟩
  | case4 => cases h
  | case5 inLink ts hin ih =>
    obtain ⟨r, hr, rfl⟩ := exists_ok_of_map_eq_ok h
    obtain ⟨⟨parts, g, hg, hp, hf⟩, hfs, rfl⟩ := ih hr
    refine ⟨.of_isField hin ?_, hfs, rfl⟩
    have hl := Pieces.link (IsLink.mk hp) hf
    simpa [Reading.push, hg] using hl
  | case6 inLink ts hin _ ih =>
    obtain ⟨r, hr, rfl⟩ := exists_ok_of_map_eq_ok h
    obtain ⟨hc, hf, rfl⟩ := ih hr
    refine ⟨.of_isField hin .nil, List.forall_mem_cons.mpr ⟨hc, hf⟩, ?_⟩
    simp [Reading.separate]
  | case7 inLink ts hin =>
    obtain rfl := Except.ok.inj h
    exact ⟨.of_isField hin .nil, by simp, rfl⟩
  | case8 inLink t ts hin _ _ _ hfits ih =>
    obtain ⟨r, hr, rfl⟩ := exists_ok_of_map_eq_ok h
    obtain ⟨hc, hf, rfl⟩ := ih hr
    exact ⟨.of_isField hin (.token ((fitsField_iff t).mp hfits) hc), hf, rfl⟩
  | case9 => cases h

theorem skipPadding_of_isPadding {front ts : List Token} (h : IsPadding front)
    (hts : ∀ t, ts.head? = some t → t.isPadding = false) : skipPadding (front ++ ts) = ts := by
  cases h with
  | none =>
    cases ts with
    | nil => rfl
    | cons t ts => simp [skipPadding, hts t rfl]
  | @some s h =>
    have hb : s.isBlank = true := List.all_eq_true.mpr h
    simp [skipPadding, Token.isPadding, hb]

theorem isPadding_skipPadding (ts : List Token) :
    ∃ front, IsPadding front ∧ ts = front ++ skipPadding ts := by
  cases ts with
  | nil => exact ⟨[], .none, rfl⟩
  | cons t ts =>
    by_cases h : t.isPadding = true
    · cases t with
      | text s => exact ⟨[.text s], .some (List.all_eq_true.mp h), by simp [skipPadding, h]⟩
      | _ => simp [Token.isPadding] at h
    · exact ⟨[], .none, by simp [skipPadding, h]⟩

/-- Reading the tokens of a declaration finds its fields, and finds them in nothing else. -/
theorem readDeclaration_eq_ok_iff (ts : List Token) (name : Field) (fields : List Field) :
    readDeclaration ts = .ok (name, fields) ↔ ∃ front back, IsPadding front ∧ IsField name ∧
      (∀ f ∈ fields, IsField f) ∧ IsPadding back ∧
      ts = front ++ declarationTokens name fields ++ back := by
  constructor
  · intro h
    obtain ⟨front, hfront, hts⟩ := isPadding_skipPadding ts
    unfold readDeclaration at h
    split at h
    · next rest hopen =>
      split at h
      · cases h
      · next r hr =>
        split at h
        · next hback =>
          obtain ⟨hc, hf, hrest⟩ := readFields_sound hr
          obtain ⟨back, hpad, hback'⟩ := isPadding_skipPadding r.rest
          rw [hback, List.append_nil] at hback'
          obtain ⟨rfl, rfl⟩ := Prod.mk.inj (Except.ok.inj h)
          refine ⟨front, back, hfront, hc, hf, hpad, ?_⟩
          rw [hts, hopen, hrest, hback', declarationTokens]
          simp
        · cases h
    · cases h
  · rintro ⟨front, back, hfront, hn, hf, hback, rfl⟩
    have hs : skipPadding (front ++ declarationTokens name fields ++ back) =
        declarationTokens name fields ++ back := by
      rw [List.append_assoc]
      exact skipPadding_of_isPadding hfront fun t ht => by cases ht; rfl
    have hr := readFields_complete back hn hf
    have hb : skipPadding back = [] := by
      have h : skipPadding (back ++ []) = [] := skipPadding_of_isPadding hback (by simp)
      rwa [List.append_nil] at h
    rw [readDeclaration, hs]
    simp only [declarationTokens, List.append_assoc, List.cons_append, List.nil_append] at hr ⊢
    simp only [hr, hb]

/-! ## From fields to arguments -/

theorem splitKey_linkParts {parts f : Field} (hp : ∀ t ∈ parts, IsLinkPart t) :
    splitKey true (parts ++ .linkClosing :: f) =
      (splitKey false f).map fun p => (parts ++ .linkClosing :: p.1, p.2) := by
  induction parts with
  | nil => simp [splitKey]
  | cons t parts ih =>
    rw [List.forall_mem_cons] at hp
    have hne : t ≠ .linkClosing := by rintro rfl; rcases hp.1 with ⟨⟨⟩⟩
    have hb : (t != .linkClosing) = true := by simpa using hne
    simp [splitKey, hb, ih hp.2, Function.comp_def]

/-- The first equals sign outside links does not lie in a key. -/
theorem splitKey_key {key : Field} (hk : IsKey key) (f : Field) :
    splitKey false (key ++ f) = (splitKey false f).map fun p => (key ++ p.1, p.2) := by
  induction hk with
  | nil => simp
  | @token t key ht _ ih =>
    have h₁ : t ≠ .equals := by rintro rfl; rcases ht with ⟨⟨⟩⟩
    have h₂ : (t == .linkOpening) = false := by
      rw [beq_eq_false_iff_ne]; rintro rfl; rcases ht with ⟨⟨⟩⟩
    simp [splitKey, h₁, h₂, ih, Function.comp_def]
  | @link l key hl _ ih =>
    obtain ⟨hp⟩ := hl
    simp [splitKey, splitKey_linkParts hp, ih, Function.comp_def]

theorem splitKey_eq_none {f : Field} (h : IsKey f) : splitKey false f = none := by
  simpa [splitKey] using splitKey_key h []

theorem splitKey_eq_some {key : Field} (hk : IsKey key) (value : Field) :
    splitKey false (key ++ .equals :: value) = some (key, value) := by
  simpa [splitKey] using splitKey_key hk (.equals :: value)

/-- An equals sign behind a key is where the value starts. -/
theorem Declares.named_parts {key value : Field} {a : Argument} (hk : IsKey key)
    (h : Declares (key ++ .equals :: value) a) :
    IsField value ∧ (contents key).isBlank = false ∧
      a = .named (contents key).trim (trimValue (contents value)) := by
  have hs := splitKey_eq_some hk value
  rcases declares_iff.mp h with ⟨hf, -⟩ | ⟨key', value', heq, hk', hv, hb, rfl⟩
  · simp [splitKey_eq_none hf] at hs
  · rw [heq, splitKey_eq_some hk'] at hs
    obtain ⟨rfl, rfl⟩ := Prod.mk.inj (Option.some.inj hs)
    exact ⟨hv, hb, rfl⟩

/-- The template with one more argument. -/
def Template.addArgument (t : Template) : Argument → Template
  | .positional value => t.withPositional value
  | .named key value => t.withNamed key value

theorem addField?_of_declares {f : Field} {a : Argument} (h : Declares f a) (t : Template) :
    t.addField? f = some (t.addArgument a) := by
  rcases declares_iff.mp h with ⟨hf, rfl⟩ | ⟨key, value, rfl, hk, -, hb, rfl⟩
  · simp [Template.addField?, splitKey_eq_none hf, Template.addArgument]
  · have hne : (contents key).trim ≠ [] := by
      rw [Ne, Text.trim_eq_nil_iff, hb]; simp
    simp [Template.addField?, splitKey_eq_some hk, hne, Template.addArgument]

theorem declares_of_addField? {f : Field} (hf : IsField f) {t u : Template}
    (h : t.addField? f = some u) : ∃ a, Declares f a ∧ u = t.addArgument a := by
  rcases hf.key_or_split with hk | ⟨key, value, rfl, hk, hv⟩
  · have hd := Declares.of_key hk
    rw [addField?_of_declares hd] at h
    exact ⟨_, hd, (Option.some.inj h).symm⟩
  · by_cases hb : (contents key).isBlank = true
    · have he : (contents key).trim = [] := (Text.trim_eq_nil_iff _).mpr hb
      simp [Template.addField?, splitKey_eq_some hk, he] at h
    · have hd := Declares.of_split hk hv (by simpa using hb)
      rw [addField?_of_declares hd] at h
      exact ⟨_, hd, (Option.some.inj h).symm⟩

/-- Adding fields adds, one after the other, the arguments that they declare. -/
theorem addFields_eq_ok_iff (source : Text) (start : Nat) {fields : List Field}
    (hf : ∀ f ∈ fields, IsField f) (t u : Template) :
    Template.addFields source t start fields = .ok u ↔
      ∃ arguments, List.Forall₂ Declares fields arguments ∧
        u = arguments.foldl Template.addArgument t := by
  induction fields generalizing t start with
  | nil =>
    constructor
    · intro h
      exact ⟨[], .nil, (Except.ok.inj h).symm⟩
    · rintro ⟨arguments, h, rfl⟩
      cases h
      rfl
  | cons f fields ih =>
    rw [List.forall_mem_cons] at hf
    constructor
    · intro h
      rw [Template.addFields] at h
      split at h
      · cases h
      · next t' ht' =>
        obtain ⟨a, ha, rfl⟩ := declares_of_addField? hf.1 ht'
        obtain ⟨as, has, rfl⟩ := (ih _ hf.2 _).mp h
        exact ⟨a :: as, .cons ha has, rfl⟩
    · rintro ⟨arguments, h, rfl⟩
      cases h with
      | @cons _ a _ as ha has =>
        simp only [Template.addFields, addField?_of_declares ha]
        exact (ih _ hf.2 _).mpr ⟨as, has, rfl⟩

theorem foldl_addArgument (arguments : List Argument) (t : Template) :
    arguments.foldl Template.addArgument t =
      ⟨t.name, t.positional ++ arguments.filterMap Argument.positional?,
        (arguments.filterMap Argument.named?).foldl (fun n e => n.insert e.1 e.2) t.named⟩ := by
  induction arguments generalizing t with
  | nil => simp
  | cons a arguments ih =>
    cases a <;>
      simp [ih, Template.addArgument, Template.withPositional, Template.withNamed,
        List.filterMap_cons, Argument.positional?, Argument.named?]

theorem foldl_addArgument_ofName (name : Text) (arguments : List Argument) :
    arguments.foldl Template.addArgument (.ofName name) = .ofArguments name arguments := by
  simp [foldl_addArgument, Template.ofName, Template.ofArguments, NamedArguments.ofList]

theorem ofFields_eq_ok_iff (source : Text) (start : Nat) (name : Field) {fields : List Field}
    (hf : ∀ f ∈ fields, IsField f) (t : Template) :
    Template.ofFields source start name fields = .ok t ↔ (contents name).isBlank = false ∧
      ∃ arguments, List.Forall₂ Declares fields arguments ∧
        t = .ofArguments (contents name).trim arguments := by
  have hb : (contents name).trim = [] ↔ (contents name).isBlank = true := Text.trim_eq_nil_iff _
  by_cases h : (contents name).isBlank = true
  · simp [Template.ofFields, hb, h]
  · simp [Template.ofFields, hb, h, addFields_eq_ok_iff source _ hf, foldl_addArgument_ofName]

/-! ## The meaning of declarations -/

/-- The text of an opening pair of braces is part of the text of every declaration. -/
theorem isBlank_of_tokens {source : Text} {front back : List Token} {name : Field}
    {fields : List Field} (h : tokens source = front ++ declarationTokens name fields ++ back) :
    source.isBlank = false := by
  have hs := sources_tokens source
  rw [h, declarationTokens] at hs
  have hm : '\x7b' ∈ source := by
    rw [← hs]
    simp [sources, Token.source]
  by_contra hb
  have hall := List.all_eq_true.mp (Bool.not_eq_false _ ▸ hb)
  exact absurd (hall _ hm) (by decide)

/-- Reading a text yields a template exactly when the tokens of the text denote it. -/
theorem ofText_of_denotes {source : Text} {t : Template} (h : Denotes (tokens source) t) :
    Template.ofText source = .ok t := by
  obtain ⟨front, name, fields, back, arguments, hts, hfront, hn, hback, hname, hargs, rfl⟩ :=
    denotes_iff.mp h
  have hb := isBlank_of_tokens hts
  have hf := isField_of_forall₂_declares hargs
  have hr := (readDeclaration_eq_ok_iff _ name fields).mpr
    ⟨front, back, hfront, hn, hf, hback, hts⟩
  simp only [Template.ofText, hb, Bool.false_eq_true, if_false, hr]
  exact (ofFields_eq_ok_iff _ _ name hf _).mpr ⟨hname, arguments, hargs, rfl⟩

theorem denotes_of_ofText {source : Text} {t : Template} (h : Template.ofText source = .ok t) :
    Denotes (tokens source) t := by
  unfold Template.ofText at h
  split at h
  · cases h
  · dsimp only at h
    split at h
    · cases h
    · next name fields hr =>
      obtain ⟨front, back, hfront, hn, hf, hback, hts⟩ :=
        (readDeclaration_eq_ok_iff _ name fields).mp hr
      obtain ⟨hname, arguments, hargs, rfl⟩ := (ofFields_eq_ok_iff _ _ name hf _).mp h
      exact denotes_iff.mpr
        ⟨front, name, fields, back, arguments, hts, hfront, hn, hback, hname, hargs, rfl⟩

/-- A text is read as a template exactly when its tokens are a declaration that denotes it. -/
theorem ofText_eq_ok_iff_denotes (source : Text) (t : Template) :
    Template.ofText source = .ok t ↔ Denotes (tokens source) t :=
  ⟨denotes_of_ofText, ofText_of_denotes⟩

/-- Links in the name and in a key, an equals sign in markers, a later one and a blank value. -/
theorem ofText_eq_ok_iff_denotes_links :
    let source : Text :=
      "\x7b\x7b [[a|b]] |<nowiki> x=y </nowiki>|k[[=]] = ]]=<nowiki>|</nowiki> | \x7d\x7d"
    let t : Template := ⟨"[[a|b]]", ["x=y", " "], ⟨[("k[[=]]", "]]=|")], by decide⟩⟩
    Denotes (tokens source) t ∧ Template.ofText source = .ok t := by
  intro source t
  let name : Field :=
    [.text " ", .linkOpening, .text "a", .pipe, .text "b", .linkClosing, .text " "]
  let marked : Field := [.nowiki " x=y "]
  let key : Field := [.text "k", .linkOpening, .equals, .linkClosing, .text " "]
  let value : Field := [.text " ", .linkClosing, .equals, .nowiki "|", .text " "]
  let blank : Field := [.text " "]
  have htokens : tokens source =
      [] ++ declarationTokens name [marked, key ++ .equals :: value, blank] ++ [] := by
    decide +kernel
  have hname : IsField name := by
    have hl : ∀ k ∈ [Token.text "a", .pipe, .text "b"], IsLinkPart k := by
      simp only [List.forall_mem_cons]
      exact ⟨.word (.text _), .pipe, .word (.text _), List.forall_mem_nil _⟩
    exact .token (.key (.word (.text _))) (.link (.mk hl) (.token (.key (.word (.text _))) .nil))
  have hkey : IsKey key := by
    have hl : ∀ k ∈ [Token.equals], IsLinkPart k := List.forall_mem_singleton.mpr .equals
    exact .token (.word (.text _)) (.link (.mk hl) (.token (.word (.text _)) .nil))
  have hvalue : IsField value :=
    .token (.key (.word (.text _))) (.token (.key .closing) (.token .equals
      (.token (.key (.word (.nowiki _))) (.token (.key (.word (.text _))) .nil))))
  -- the texts of the fields, and what is left of them without the white space around them
  have hlabel : HasLabel name t.name :=
    ⟨by decide, _, .cons (.text _) (.cons .linkOpening (.cons (.text _) (.cons .pipe
        (.cons (.text _) (.cons .linkClosing (.cons (.text _) .nil)))))),
      (Text.trimsTo_iff _ _).mpr rfl⟩
  have hmarked : Declares marked (.positional "x=y") :=
    .positional (.token (.word (.nowiki _)) .nil) ⟨_, .cons (.nowiki _) .nil,
      .trimmed ((Text.trimsTo_iff _ _).mpr rfl) (by decide)⟩
  have hnamed : Declares (key ++ .equals :: value) (.named "k[[=]]" "]]=|") :=
    .named hkey
      ⟨by decide, _, .cons (.text _) (.cons .linkOpening (.cons .equals (.cons .linkClosing
          (.cons (.text _) .nil)))),
        (Text.trimsTo_iff _ _).mpr rfl⟩
      hvalue ⟨_, .cons (.text _) (.cons .linkClosing (.cons .equals (.cons (.nowiki _)
          (.cons (.text _) .nil)))),
        .trimmed ((Text.trimsTo_iff _ _).mpr rfl) (by decide)⟩
  have hblank : Declares blank (.positional " ") :=
    .positional (.token (.word (.text _)) .nil)
      ⟨_, .cons (.text _) .nil, .blank (List.all_eq_true.mp rfl)⟩
  have hset : IsSet "k[[=]]" ("]]=|" : Text) [] t.named.entries := .added List.not_mem_nil
  have hd : Denotes (tokens source) t :=
    ⟨[], name, _, [], _, htokens, .none, hname, .none, hlabel,
      .cons hmarked (.cons hnamed (.cons hblank .nil)), rfl, .cons hset .nil⟩
  exact ⟨hd, (ofText_eq_ok_iff_denotes source t).mpr hd⟩

end WikiAxioms.Markup
