import Mathlib.Data.List.Forall2
import Mathlib.Data.List.Infix
import WikiAxioms.Proofs.Entries
import WikiAxioms.Proofs.Markup.Grammar
import WikiAxioms.Proofs.Markup.Lexing

/-!
# Templates written and read again

A template is written with nowiki markers around the values that need them. What each part of it is
written as has tokens of its own, whatever stands next to it, so that the whole is a declaration
that denotes the template: reading undoes writing.
-/

namespace WikiAxioms.Markup

/-! ## Parts of a declaration -/

/-- Tokens of a declaration put together from the texts of its fields. No text may pair its last
character with the closing braces, and only the last may leave a nowiki marker open. -/
theorem tokens_declaration (name : Text) (fields : List Text)
    (hl : ∀ x ∈ name :: fields, x.getLast? ≠ some '\x7d')
    (ho : ∀ x ∈ (name :: fields).dropLast, .char nowikiOpening ∉ tokens x) :
    tokens (['\x7b', '\x7b'] ++ name ++ fields.flatMap ('|' :: ·) ++ ['\x7d', '\x7d']) =
      declarationTokens (tokens name) (fields.map tokens) := by
  have h : tokens (name ++ fields.flatMap ('|' :: ·) ++ ['\x7d', '\x7d']) =
      tokens name ++ (fields.map tokens).flatMap (.pipe :: ·) ++ [.closing] := by
    induction fields generalizing name with
    | nil =>
      have hc : ¬ nowikiClosing <:+: ['\x7d', '\x7d'] := by decide
      have ha := tokens_append (d := '\x7d') rfl (fun _ => hl name (by simp)) (fun _ => hc)
      rw [tokens_closing] at ha
      simpa [tokens] using ha
    | cons f fields ih =>
      rw [List.forall_mem_cons] at hl
      rw [List.dropLast_cons_cons, List.forall_mem_cons] at ho
      have ha : tokens (name ++ '|' :: (f ++ fields.flatMap ('|' :: ·) ++ ['\x7d', '\x7d'])) =
          tokens name ++ tokens ('|' :: (f ++ fields.flatMap ('|' :: ·) ++ ['\x7d', '\x7d'])) :=
        tokens_append rfl (by simp [isPaired]) fun hm => absurd hm ho.1
      rw [tokens_pipe, ih f hl.2 ho.2] at ha
      simpa using ha
  have ht : ['\x7b', '\x7b'] ++ name ++ fields.flatMap ('|' :: ·) ++ ['\x7d', '\x7d'] =
      '\x7b' :: '\x7b' :: (name ++ fields.flatMap ('|' :: ·) ++ ['\x7d', '\x7d']) := by simp
  rw [ht, tokens_opening, h]
  simp [declarationTokens]

/-- Fields have no braces. -/
theorem IsField.isBrace_eq_false {f : Field} (h : IsField f) : ∀ k ∈ f, k.isBrace = false := by
  have hpart {k : Token} (hk : IsLinkPart k) : k.isBrace = false := by
    rcases hk with ⟨⟨⟩⟩ | ⟨⟩ | ⟨⟩ <;> rfl
  induction h with
  | nil => simp
  | token ht _ ih =>
    refine List.forall_mem_cons.mpr ⟨?_, ih⟩
    rcases ht with ⟨⟨⟨⟩⟩ | ⟨⟩⟩ | ⟨⟩ <;> rfl
  | link hl _ ih =>
    obtain ⟨hp⟩ := hl
    intro k hk
    simp only [List.mem_append, List.mem_cons, List.not_mem_nil, or_false] at hk
    rcases hk with ((rfl | hk) | rfl) | hk
    · rfl
    · exact hpart (hp k hk)
    · rfl
    · exact ih k hk

theorem IsField.getLast?_ne {x : Text} (h : IsField (tokens x)) : x.getLast? ≠ some '\x7d' :=
  getLast?_ne_of_noBrace h.isBrace_eq_false

/-- The text `x` is written for the text `t` where tokens of the kind `outside` stand. -/
structure Spells (outside : Token → Prop) (x t : Text) : Prop where
  pieces : Pieces outside (tokens x)
  contents : contents (tokens x) = t

theorem Spells.mono {inside outside : Token → Prop} (h : ∀ k, inside k → outside k) {x t : Text}
    (hx : Spells inside x t) : Spells outside x t :=
  ⟨hx.pieces.mono h, hx.contents⟩

/-- Both markers of a pair are read as one token. -/
theorem isInfix_of_nowiki_mem {t body : Text} (h : .nowiki body ∈ tokens t) :
    nowikiOpening <:+: t ∧ nowikiClosing <:+: t := by
  have hs := source_isInfix_of_mem_tokens h
  constructor
  · refine List.IsInfix.trans ⟨[], body ++ nowikiClosing, ?_⟩ hs
    simp [Token.source]
  · refine List.IsInfix.trans ⟨nowikiOpening ++ body, [], ?_⟩ hs
    simp [Token.source]

/-- Text that means itself in a field: it can neither end the field nor open a link in it, and no
pair of markers can stand in it. -/
structure IsPlain (t : Text) : Prop where
  noBrace : ∀ c ∈ t, c ≠ '\x7b' ∧ c ≠ '\x7d' ∧ c ≠ '|'
  noLink : ¬ ['[', '['] <:+: t
  noNowiki : ¬ nowikiOpening <:+: t ∨ ¬ nowikiClosing <:+: t

namespace IsPlain

variable {t : Text}

theorem not_mem_tokens (h : IsPlain t) {k : Token} (hk : k ∈ tokens t) :
    IsFieldToken k := by
  have hs := source_isInfix_of_mem_tokens hk
  have hm : ∀ c ∈ k.source, c ≠ '\x7b' ∧ c ≠ '\x7d' ∧ c ≠ '|' := fun c hc =>
    h.noBrace c (hs.subset hc)
  cases k with
  | text s => exact .key (.word (.text s))
  | char s => exact .key (.word (.char s))
  | nowiki s => exact .key (.word (.nowiki s))
  | equals => exact .equals
  | linkClosing => exact .key .closing
  | linkOpening => exact absurd hs h.noLink
  | _ => simp [Token.source] at hm

theorem isField (h : IsPlain t) : IsField (tokens t) :=
  .of_forall fun _ => h.not_mem_tokens

theorem contents (h : IsPlain t) : contents (tokens t) = t := by
  refine contents_tokens fun body hb => ?_
  obtain ⟨ho, hc⟩ := isInfix_of_nowiki_mem hb
  rcases h.noNowiki with hn | hn
  · exact hn ho
  · exact hn hc

theorem spells (h : IsPlain t) : Spells IsFieldToken t t := ⟨h.isField, h.contents⟩

/-- Without an equals sign the text is a key, or a value that no key comes before. -/
theorem spells_key (h : IsPlain t) (he : '=' ∉ t) : Spells IsKeyToken t t := by
  refine ⟨.of_forall fun k hk => ?_, h.contents⟩
  cases h.not_mem_tokens hk with
  | key hk => exact hk
  | equals => exact absurd ((source_isInfix_of_mem_tokens hk).subset (by simp [Token.source])) he

end IsPlain

theorem char_not_mem_tokens {t : Text} (h : ¬ nowikiOpening <:+: t) :
    .char nowikiOpening ∉ tokens t :=
  fun hm => h (source_isInfix_of_mem_tokens hm)

/-! ## Values -/

/-- A value that a template keeps as it is. -/
theorem trimValue_eq_self {v : Text} (h : v.isBlank = true ∨ v.trim = v) : trimValue v = v := by
  by_cases hb : v.trim = []
  · rw [trimValue, if_pos hb]
  · rw [trimValue, if_neg hb]
    rcases h with h | h
    · exact absurd ((Text.trim_eq_nil_iff v).mpr h) hb
    · exact h

open Template (needsProtection protect)

theorem needsProtection_eq_false_iff {v : Text} (hc : ¬ nowikiClosing <:+: v) :
    needsProtection v = false ↔
      (∀ c ∈ v, Template.isSeparator c = false) ∧ ¬ ['[', '['] <:+: v := by
  have h : Text.contains v nowikiClosing = false := by
    rwa [Bool.eq_false_iff, Ne, Text.contains_iff]
  rw [needsProtection, h, Bool.not_false, Bool.and_true, Bool.or_eq_false_iff, List.any_eq_false,
    Bool.eq_false_iff (b := Text.contains v _), Ne, Text.contains_iff]
  simp

theorem not_isInfix_of_needsProtection {v : Text} (h : needsProtection v = true) :
    ¬ nowikiClosing <:+: v := by
  rw [needsProtection, Bool.and_eq_true, Bool.not_eq_true'] at h
  rw [← Text.contains_iff, h.2]
  exact Bool.false_ne_true

theorem tokens_protect_of_needs {v : Text} (h : needsProtection v = true) :
    tokens (protect v) = [.nowiki v] := by
  have ht := tokens_nowiki (not_isInfix_of_needsProtection h) []
  rw [List.append_nil] at ht
  rw [protect, if_pos h, ht, tokens]

theorem protect_eq_self {v : Text} (h : needsProtection v = false) : protect v = v := by
  rw [protect, h, if_neg Bool.false_ne_true]

theorem isPlain_of_needsProtection_eq_false {v : Text} (hc : ¬ nowikiClosing <:+: v)
    (h : needsProtection v = false) : IsPlain v ∧ '=' ∉ v := by
  obtain ⟨hs, hl⟩ := (needsProtection_eq_false_iff hc).mp h
  have hd : Template.isSeparator '\x7b' = true ∧ Template.isSeparator '\x7d' = true ∧
      Template.isSeparator '|' = true ∧ Template.isSeparator '=' = true := by decide
  constructor
  · refine ⟨fun c hm => ⟨?_, ?_, ?_⟩, hl, .inr hc⟩
    · rintro rfl; simp [hs _ hm] at hd
    · rintro rfl; simp [hs _ hm] at hd
    · rintro rfl; simp [hs _ hm] at hd
  · intro hm
    simp [hs _ hm] at hd

/-- A value in markers is one word, so only one without them has to stand for itself. -/
theorem spells_protect {outside : Token → Prop} (hw : ∀ k, IsWord k → outside k) {v : Text}
    (h : needsProtection v = false → Spells outside v v) : Spells outside (protect v) v := by
  cases hv : needsProtection v with
  | true =>
    constructor
    · rw [tokens_protect_of_needs hv]
      exact .token (hw _ (.nowiki v)) .nil
    · rw [tokens_protect_of_needs hv]
      simp [contents, Token.content]
  | false =>
    rw [protect_eq_self hv]
    exact h hv

theorem char_not_mem_tokens_protect {v : Text} (ho : ¬ nowikiOpening <:+: v) :
    .char nowikiOpening ∉ tokens (protect v) := by
  cases h : needsProtection v with
  | true => rw [tokens_protect_of_needs h]; simp
  | false =>
    rw [protect_eq_self h]
    exact char_not_mem_tokens ho

/-! ## Templates -/

/-- A name that a declaration can spell out. -/
structure IsNameText (t : Text) : Prop where
  nonempty : t ≠ []
  trimmed : t.trim = t
  noBrace : ∀ c ∈ t, c ≠ '\x7b' ∧ c ≠ '\x7d' ∧ c ≠ '|'
  noLink : ¬ ['[', '['] <:+: t
  noNowiki : ¬ nowikiOpening <:+: t

/-- A key that a declaration can spell out. -/
structure IsKeyText (t : Text) : Prop extends IsNameText t where
  noEquals : '=' ∉ t

/-- A value that a declaration can spell out, with markers around it if need be. -/
structure IsValueText (v : Text) : Prop where
  trimmed : v.isBlank = true ∨ v.trim = v
  noClosing : ¬ nowikiClosing <:+: v

theorem IsNameText.isPlain {t : Text} (h : IsNameText t) : IsPlain t :=
  ⟨h.noBrace, h.noLink, .inl h.noNowiki⟩

/-- A written value is read as text, and the text is the value. -/
theorem IsValueText.spells_protect {v : Text} (h : IsValueText v) :
    Spells IsKeyToken (protect v) v :=
  Markup.spells_protect (fun _ => .word) fun hn =>
    have hp := isPlain_of_needsProtection_eq_false h.noClosing hn
    hp.1.spells_key hp.2

/-- A name or a key that is written as it is. -/
structure IsLabel (outside : Token → Prop) (t : Text) : Prop where
  spells : Spells outside t t
  trimmed : t.trim = t
  nonblank : t.isBlank = false
  terminated : .char nowikiOpening ∉ tokens t

theorem IsNameText.isLabel {t : Text} (h : IsNameText t) : IsLabel IsFieldToken t where
  spells := h.isPlain.spells
  trimmed := h.trimmed
  nonblank := Text.isBlank_of_trim_eq_self h.trimmed h.nonempty
  terminated := char_not_mem_tokens h.noNowiki

theorem IsKeyText.isLabel {t : Text} (h : IsKeyText t) : IsLabel IsKeyToken t :=
  { h.toIsNameText.isLabel with spells := h.isPlain.spells_key h.noEquals }

namespace Argument

def value : Argument → Text
  | positional value => value
  | named _ value => value

/-- What an argument is written as, without the separator before it. -/
def fieldText : Argument → Text
  | positional value => protect value
  | named key value => key ++ '=' :: protect value

/-- An argument that a declaration can spell out. -/
structure IsWritable (a : Argument) : Prop where
  key : ∀ e, a.named? = some e → IsKeyText e.1
  value : IsValueText a.value

/-- An argument the parts of which stand for themselves. -/
inductive IsLegible : Argument → Prop
  | positional {v : Text} (hv : Spells IsKeyToken (protect v) v) (ht : trimValue v = v) :
      IsLegible (.positional v)
  | named {key v : Text} (hk : IsLabel IsKeyToken key) (hv : Spells IsFieldToken (protect v) v)
      (ht : trimValue v = v) : IsLegible (.named key v)

theorem IsWritable.isLegible {a : Argument} (h : a.IsWritable) : a.IsLegible := by
  have ht := trimValue_eq_self h.value.trimmed
  have hv := h.value.spells_protect
  cases a with
  | positional v => exact .positional hv ht
  | named key v => exact .named (h.key _ rfl).isLabel (hv.mono fun _ => .key) ht

theorem tokens_fieldText_named {key : Text} (h : .char nowikiOpening ∉ tokens key) (v : Text) :
    tokens (fieldText (.named key v)) = tokens key ++ .equals :: tokens (protect v) := by
  rw [fieldText, tokens_append rfl (by simp [isPaired]) fun hm => absurd hm h, tokens_equals]

theorem declares_fieldText {a : Argument} (h : a.IsLegible) :
    Declares (tokens a.fieldText) a := by
  cases h with
  | @positional v hv ht =>
    have hd := Declares.of_key hv.pieces
    rwa [hv.contents, ht] at hd
  | @named key v hk hv ht =>
    have hb : (contents (tokens key)).isBlank = false := by
      rw [hk.spells.contents, hk.nonblank]
    have hd := Declares.of_split hk.spells.pieces hv.pieces hb
    rw [hk.spells.contents, hv.contents, hk.trimmed, ht] at hd
    rwa [tokens_fieldText_named hk.terminated]

theorem char_not_mem_tokens_fieldText {a : Argument} (h : a.IsLegible)
    (ho : ¬ nowikiOpening <:+: a.value) : .char nowikiOpening ∉ tokens a.fieldText := by
  have hm := char_not_mem_tokens_protect ho
  cases h with
  | positional hv ht => exact hm
  | @named key v hk hv ht =>
    have hm : .char nowikiOpening ∉ tokens (protect v) := hm
    rw [tokens_fieldText_named hk.terminated]
    simp [hk.terminated, hm]

end Argument

namespace Template

/-- The arguments of a template in the order in which they are written. -/
def arguments (t : Template) : List Argument :=
  t.positional.map .positional ++ t.named.entries.map fun e => .named e.1 e.2

theorem render_eq (t : Template) : t.render = ['\x7b', '\x7b'] ++ t.name ++
    (t.arguments.map Argument.fieldText).flatMap ('|' :: ·) ++ ['\x7d', '\x7d'] := by
  simp [render, arguments, List.flatMap_map, Argument.fieldText]

end Template

/-- Named arguments inserted one by one into an empty collection are the collection again. -/
theorem ofList_entries (a : NamedArguments) : NamedArguments.ofList a.entries = a := by
  refine NamedArguments.eq_of_entries ?_
  rw [entries_ofList, foldl_setEntry (by simpa using a.nodup), List.nil_append]

theorem ofArguments_arguments (t : Template) : .ofArguments t.name t.arguments = t := by
  have hp : t.arguments.filterMap Argument.positional? = t.positional := by
    simp [Template.arguments, List.filterMap_map, Function.comp_def, Argument.positional?]
  have hn : t.arguments.filterMap Argument.named? = t.named.entries := by
    simp [Template.arguments, List.filterMap_map, Function.comp_def, Argument.named?]
  rw [Template.ofArguments, hp, hn, ofList_entries]

/-- The tokens of a written template denote it. A nowiki marker may be left open by its last value,
which nothing follows but the closing braces. -/
theorem denotes_render {t : Template} (hn : IsLabel IsFieldToken t.name)
    (ha : ∀ a ∈ t.arguments, a.IsLegible)
    (ho : ∀ a ∈ t.arguments.dropLast, ¬ nowikiOpening <:+: a.value) :
    Denotes (tokens t.render) t := by
  have hd : ∀ a ∈ t.arguments, Declares (tokens a.fieldText) a := fun a hm =>
    Argument.declares_fieldText (ha a hm)
  have ht := tokens_declaration t.name (t.arguments.map Argument.fieldText)
    (by
      rw [List.forall_mem_cons, List.forall_mem_map]
      exact ⟨IsField.getLast?_ne hn.spells.pieces, fun a hm => (hd a hm).isField.getLast?_ne⟩)
    (by
      intro x hx
      have hs : x = t.name ∨ x ∈ (t.arguments.map Argument.fieldText).dropLast := by
        cases h : t.arguments.map Argument.fieldText with
        | nil => rw [h] at hx; simp at hx
        | cons f fs => rw [h] at hx; simpa using hx
      rcases hs with rfl | hs
      · exact hn.terminated
      · rw [← List.map_dropLast, List.mem_map] at hs
        obtain ⟨a, hm, rfl⟩ := hs
        exact Argument.char_not_mem_tokens_fieldText (ha a (List.dropLast_subset _ hm)) (ho a hm))
  rw [← Template.render_eq] at ht
  refine denotes_iff.mpr ⟨[], tokens t.name, (t.arguments.map Argument.fieldText).map tokens, [],
    t.arguments, by simp [ht], .none, hn.spells.pieces, .none, ?_, ?_, ?_⟩
  · rw [hn.spells.contents, hn.nonblank]
  · rw [List.map_map, List.forall₂_map_left_iff, List.forall₂_same]
    exact hd
  · rw [hn.spells.contents, hn.trimmed, ofArguments_arguments]

/-- Templates that writing keeps apart from all others. -/
structure Template.IsWritable (t : Template) : Prop where
  name : IsNameText t.name
  keys : ∀ e ∈ t.named.entries, IsKeyText e.1
  values : ∀ v ∈ t.positional ++ t.named.entries.map Prod.snd,
    IsValueText v ∧ ¬ nowikiOpening <:+: v

theorem Template.IsWritable.arguments {t : Template} (h : t.IsWritable) :
    ∀ a ∈ t.arguments, a.IsWritable ∧ ¬ nowikiOpening <:+: a.value := by
  intro a ha
  rw [Template.arguments, List.mem_append, List.mem_map, List.mem_map] at ha
  rcases ha with ⟨v, hv, rfl⟩ | ⟨e, he, rfl⟩
  · have hw := h.values v (by simp [hv])
    exact ⟨⟨by simp [Argument.named?], hw.1⟩, hw.2⟩
  · have hw := h.values e.2 (List.mem_append_right _ (List.mem_map_of_mem he))
    refine ⟨⟨fun e' he' => ?_, hw.1⟩, hw.2⟩
    cases he'
    exact h.keys e he

/-- Reading undoes writing, whatever the values of a template hold. -/
theorem ofText_render {t : Template} (h : t.IsWritable) : Template.ofText t.render = .ok t :=
  ofText_of_denotes (denotes_render h.name.isLabel (fun a ha => (h.arguments a ha).1.isLegible)
    fun a ha => (h.arguments a (List.dropLast_subset _ ha)).2)

/-- Separators, braces, links and the beginning of a closing marker, in one template. -/
theorem ofText_render_separators :
    let t : Template := ⟨"a]]=", ["x|\x7b", " "], ⟨[("k", "[[=</nowiki")], by decide⟩⟩
    t.IsWritable ∧ Template.ofText t.render = .ok t := by
  intro t
  have h : t.IsWritable := by
    refine ⟨⟨by decide, by decide, by simp [t], by decide, by decide⟩, ?_, ?_⟩
    · intro e he
      cases List.mem_singleton.mp he
      exact ⟨⟨by decide, by decide, by simp, by decide, by decide⟩, by decide⟩
    · have hd : ∀ v ∈ t.positional ++ t.named.entries.map Prod.snd,
          (v.isBlank = true ∨ v.trim = v) ∧ ¬ nowikiClosing <:+: v ∧ ¬ nowikiOpening <:+: v := by
        decide
      exact fun v hv => ⟨⟨(hd v hv).1, (hd v hv).2.1⟩, (hd v hv).2.2⟩
  exact ⟨h, ofText_render h⟩

end WikiAxioms.Markup
