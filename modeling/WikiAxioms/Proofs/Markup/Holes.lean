import WikiAxioms.Proofs.Markup.FirstOffence
import WikiAxioms.Proofs.Markup.Marks
import WikiAxioms.Proofs.Markup.Slices
import WikiAxioms.Proofs.Markup.Slots

/-!
# Nowiki markers as holes

What stands between nowiki markers in a value is taken as it is. Another text there, whatever it
holds but a closing marker, leaves the tokens around it, the fields and the keys as they are: only
the value changes, by just that text.
-/

namespace WikiAxioms.Markup

/-- A text with another one in nowiki markers in it. -/
def enclosed (pre body post : Text) : Text :=
  pre ++ (nowikiOpening ++ body ++ nowikiClosing ++ post)

/-! ## Tokens around a hole -/

section Tokens

variable {pre x post body : Text} {lead rest : List Token}
  (hx : ¬ nowikiClosing <:+: x) (h : tokens (enclosed pre x post) = lead ++ .nowiki body :: rest)
  (hl : sizeOfTokens lead = pre.byteLength)

include hx h hl

/-- The token of a hole holds what stands in its markers, and its neighbours are those of the texts
around it. -/
theorem parts_of_tokens_enclosed : sources lead = pre ∧ body = x ∧ tokens post = rest := by
  have hs : sources lead ++ sources (.nowiki body :: rest) =
      pre ++ (nowikiOpening ++ x ++ nowikiClosing ++ post) := by
    rw [← sources_append, ← h, sources_tokens, enclosed]
  -- the offset of the token tells where the text in front of it ends
  obtain ⟨hlead, hrest⟩ := Text.append_inj_of_byteLength hs
    ((sizeOfTokens_eq_byteLength lead).symm.trans hl)
  have ht := tokens_sources_back h
  rw [hrest, tokens_nowiki hx] at ht
  obtain ⟨hbody, hpost⟩ := List.cons.inj ht
  exact ⟨hlead, (Token.nowiki.inj hbody).symm, hpost⟩

omit hx hl in
/-- No marker is open where a hole starts. -/
theorem char_not_mem_lead : .char nowikiOpening ∉ lead := by
  intro hm
  -- it would have been closed by the marker behind the hole
  obtain ⟨front, between, rfl⟩ := List.append_of_mem hm
  have hc : tokens (enclosed pre x post) =
      front ++ .char nowikiOpening :: (between ++ .nowiki body :: rest) := by
    rw [h, List.append_assoc, List.cons_append]
  refine not_isInfix_of_char hc
    ⟨sources between ++ nowikiOpening ++ body, sources rest, ?_⟩
  simp [sources, Token.source]

/-- The tokens around a hole do not depend on what it holds. -/
theorem tokens_enclosed {b : Text} (hb : ¬ nowikiClosing <:+: b) :
    tokens (enclosed pre b post) = lead ++ .nowiki b :: rest := by
  obtain ⟨hpre, -, hpost⟩ := parts_of_tokens_enclosed hx h hl
  have hlead : tokens pre = lead := hpre ▸ tokens_sources_front h
  have hopen : .char nowikiOpening ∉ tokens pre := hlead ▸ char_not_mem_lead h
  have ha : tokens (enclosed pre b post) =
      tokens pre ++ tokens (nowikiOpening ++ b ++ nowikiClosing ++ post) :=
    tokens_append (d := '<') rfl (by simp [isPaired]) fun hm => absurd hm hopen
  rw [ha, hlead, tokens_nowiki hb, hpost]

end Tokens

/-! ## Fields with a hole -/

/-- A nowiki token in a field of a declaration, with what stands around it: `lead` and `trail` in
its own field, and the other fields. -/
structure Hole where
  front : List Token
  name : Field
  earlier : List Field
  lead : Field
  body : Text
  trail : Field
  later : List Field
  back : List Token

namespace Hole

/-- The field of the hole with another text in it. -/
def field (h : Hole) (b : Text) : Field := h.lead ++ .nowiki b :: h.trail

def fields (h : Hole) (b : Text) : List Field := h.earlier ++ h.field b :: h.later

/-- The argument that the field declares. -/
def argument (h : Hole) : Argument := argumentOf (h.field h.body)

/-- Where a template keeps the value with the hole. -/
def slot (h : Hole) : Slot := h.argument.slot (h.earlier.map argumentOf)

/-- A later field has the same key. -/
def IsOverridden (h : Hole) : Prop := h.argument.IsOverridden (h.later.map argumentOf)

/-- The hole is not in a key: its field has none, or the equals sign behind the key comes first. -/
def IsInValue (h : Hole) : Prop :=
  IsKey (h.field h.body) ∨ ∃ key value, h.lead = key ++ .equals :: value ∧ IsKey key

/-- The tokens are a declaration with the hole in a value, at the byte `offset`. -/
structure IsAt (h : Hole) (offset : Nat) (ts : List Token) : Prop where
  layout : IsLayout ts h.front h.name (h.fields h.body) h.back
  offset : sizeOfTokens (fieldLead h.front h.name h.earlier ++ h.lead) = offset
  inValue : h.IsInValue

/-- The field declares one argument with whatever is in the hole, but for the value, in which the
text stands between two others. -/
theorem exists_declares {h : Hole} (hv : h.IsInValue) (hd : Declares (h.field h.body) h.argument) :
    ∃ u v, ∀ b, Declares (h.field b) (h.argument.withValue (trimValue (u ++ b ++ v))) := by
  have hmarks (b : Text) (f : Field) : marks (f ++ .nowiki h.body :: h.trail) =
      marks (f ++ .nowiki b :: h.trail) := by
    simp only [marks_append, marks_cons_of_isWord (.nowiki _)]
  have hcontents (f : Field) (b : Text) : contents (f ++ .nowiki b :: h.trail) =
      contents f ++ b ++ contents h.trail := by
    simp [contents, Token.content]
  rcases hv with hk | ⟨key, value, hlead, hk⟩
  · refine ⟨contents h.lead, contents h.trail, fun b => ?_⟩
    have hb := Declares.of_key (hk.of_marks_eq (hmarks b h.lead))
    rw [hcontents] at hb
    rw [argument, argumentOf, splitKey_eq_none hk]
    exact hb
  · have hsplit (b : Text) : h.field b = key ++ .equals :: (value ++ .nowiki b :: h.trail) := by
      rw [field, hlead, List.append_assoc, List.cons_append]
    rw [hsplit] at hd
    obtain ⟨hval, hb, ha⟩ := hd.named_parts hk
    refine ⟨contents value, contents h.trail, fun b => ?_⟩
    have hb := Declares.of_split hk (hval.of_marks_eq (hmarks b value)) hb
    rw [hcontents, ← hsplit] at hb
    rw [ha]
    exact hb

/-- The tokens behind the hole. -/
def rest (h : Hole) : List Token :=
  h.trail ++ h.later.flatMap (.pipe :: ·) ++ .closing :: h.back

theorem tokens_eq (h : Hole) (b : Text) :
    h.front ++ declarationTokens h.name (h.fields b) ++ h.back =
      fieldLead h.front h.name h.earlier ++ h.lead ++ .nowiki b :: h.rest := by
  simp [declarationTokens, fields, field, fieldLead, rest]

theorem map_argumentOf_fields (h : Hole) (b : Text) : (h.fields b).map argumentOf =
    h.earlier.map argumentOf ++ argumentOf (h.field b) :: h.later.map argumentOf := by
  rw [fields, List.map_append, List.map_cons]

/-- With another value declared by the field of the hole, a template has that value in one slot, or
it is the same. -/
theorem ofArguments_fields (h : Hole) (name : Text) {b w : Text}
    (hd : Declares (h.field b) (h.argument.withValue w)) :
    (h.IsOverridden → Template.ofArguments name ((h.fields b).map argumentOf) =
      .ofArguments name ((h.fields h.body).map argumentOf)) ∧
    (¬ h.IsOverridden →
      (Template.ofArguments name ((h.fields h.body).map argumentOf)).AgreesBut h.slot
        (.ofArguments name ((h.fields b).map argumentOf)) ∧
      (Template.ofArguments name ((h.fields b).map argumentOf)).valueAt? h.slot = some w) := by
  rw [map_argumentOf_fields, map_argumentOf_fields, ← hd.eq_argumentOf]
  refine ⟨ofArguments_withValue_of_isOverridden name _ w, fun ho => ⟨?_, ?_⟩⟩
  · exact agreesBut_withValue name _ _ h.argument w
  · have hslot := valueAt?_slot name (h.earlier.map argumentOf)
      (mt (Argument.isOverridden_withValue w _ _).mp ho)
    rwa [Argument.slot_withValue, Argument.value_withValue] at hslot

end Hole

/-- What stands in nowiki markers in a value cannot break out of it. With any other text in the
markers the declaration is read as well; the template has that text in the one value, and is the
same elsewhere, or altogether if a later field has the key of the value. -/
theorem ofText_enclosed {pre x post : Text} {t : Template} {hole : Hole}
    (hx : ¬ nowikiClosing <:+: x) (ht : Template.ofText (enclosed pre x post) = .ok t)
    (hh : hole.IsAt pre.byteLength (tokens (enclosed pre x post))) :
    ∃ u v, ∀ b, ¬ nowikiClosing <:+: b →
      ∃ t', Template.ofText (enclosed pre b post) = .ok t' ∧
        (hole.IsOverridden → t' = t) ∧
        (¬ hole.IsOverridden → t.AgreesBut hole.slot t' ∧
          t'.valueAt? hole.slot = some (trimValue (u ++ b ++ v))) := by
  obtain ⟨front, name, fields, back, arguments, hts, hfront, hn, hback, hb, ha, rfl⟩ :=
    denotes_iff.mp (denotes_of_ofText ht)
  obtain ⟨rfl, rfl, rfl⟩ := hh.layout.unique
    ⟨hfront, hn, isField_of_forall₂_declares ha, hback, hts⟩
  obtain ⟨hd, rfl⟩ := forall₂_declares_iff.mp ha
  rw [Hole.fields, List.forall_mem_append, List.forall_mem_cons] at hd
  obtain ⟨hearlier, hfield, hlater⟩ := hd
  obtain ⟨u, v, hw⟩ := Hole.exists_declares hh.inValue hfield
  refine ⟨u, v, fun b hb' => ?_⟩
  have htokens : tokens (enclosed pre b post) =
      hole.front ++ declarationTokens hole.name (hole.fields b) ++ hole.back := by
    rw [hole.tokens_eq]
    exact tokens_enclosed hx (hh.layout.split.trans (hole.tokens_eq hole.body)) hh.offset hb'
  have hfields : List.Forall₂ Declares (hole.fields b) ((hole.fields b).map argumentOf) := by
    refine forall₂_declares_iff.mpr ⟨?_, rfl⟩
    rw [Hole.fields, List.forall_mem_append, List.forall_mem_cons, ← (hw b).eq_argumentOf]
    exact ⟨hearlier, hw b, hlater⟩
  have hdenotes : Denotes (tokens (enclosed pre b post))
      (.ofArguments (contents hole.name).trim ((hole.fields b).map argumentOf)) :=
    denotes_iff.mpr ⟨hole.front, hole.name, hole.fields b, hole.back, _, htokens, hfront, hn,
      hh.layout.isPadding_back, hb, hfields, rfl⟩
  exact ⟨_, ofText_of_denotes hdenotes, hole.ofArguments_fields _ (hw b)⟩

/-- In a link, where a separator stands in front of the hole. -/
theorem ofText_enclosed_link :
    let pre : Text := "\x7b\x7ba|k=[[b|"
    let post : Text := "]]|q\x7d\x7d"
    let t : Template := ⟨"a", ["q"], ⟨[("k", "[[b|c]]")], by decide⟩⟩
    let hole : Hole := {
      front := []
      name := [.text "a"]
      earlier := []
      lead := [.text "k", .equals, .linkOpening, .text "b", .pipe]
      body := "c"
      trail := [.linkClosing]
      later := [[.text "q"]]
      back := [] }
    ¬ nowikiClosing <:+: ['c'] ∧ Template.ofText (enclosed pre ['c'] post) = .ok t ∧
      hole.IsAt pre.byteLength (tokens (enclosed pre ['c'] post)) ∧
      ∃ u v, ∀ b, ¬ nowikiClosing <:+: b →
        ∃ t', Template.ofText (enclosed pre b post) = .ok t' ∧
          (hole.IsOverridden → t' = t) ∧
          (¬ hole.IsOverridden → t.AgreesBut hole.slot t' ∧
            t'.valueAt? hole.slot = some (trimValue (u ++ b ++ v))) := by
  intro pre post t hole
  have hx : ¬ nowikiClosing <:+: ['c'] := by decide
  have htokens : tokens (enclosed pre ['c'] post) =
      declarationTokens hole.name (hole.fields hole.body) := by
    decide +kernel
  have hparts : ∀ k ∈ [Token.text "b", .pipe, .nowiki "c"], IsLinkPart k := by
    simp only [List.forall_mem_cons]
    exact ⟨.word (.text _), .pipe, .word (.nowiki _), List.forall_mem_nil _⟩
  have hlink : IsField [.linkOpening, .text "b", .pipe, .nowiki "c", .linkClosing] := by
    have h : IsField (_ ++ []) := .link (.mk hparts) .nil
    exact h
  have hkey : IsKey [.text "k"] := .token (.word (.text _)) .nil
  have hfield : IsField (hole.field hole.body) := hkey.isField.append (.token .equals hlink)
  have hlayout : IsLayout (tokens (enclosed pre ['c'] post)) hole.front hole.name
      (hole.fields hole.body) hole.back :=
    { isPadding_front := .none
      isField_name := .token (.key (.word (.text _))) .nil
      isField_fields := List.forall_mem_cons.mpr
        ⟨hfield, List.forall_mem_singleton.mpr (.token (.key (.word (.text _))) .nil)⟩
      isPadding_back := .none
      split := by rw [htokens]; rfl }
  have hh : hole.IsAt pre.byteLength (tokens (enclosed pre ['c'] post)) :=
    ⟨hlayout, by decide, .inr ⟨[.text "k"], [.linkOpening, .text "b", .pipe], rfl, hkey⟩⟩
  have ht : Template.ofText (enclosed pre ['c'] post) = .ok t := by
    have hr := (readDeclaration_eq_ok_iff_isLayout _ _ _).mpr ⟨_, _, hlayout⟩
    rw [Template.ofText, if_neg (by decide)]
    simp only [hr]
    rfl
  exact ⟨hx, ht, hh, ofText_enclosed hx ht hh⟩

end WikiAxioms.Markup
