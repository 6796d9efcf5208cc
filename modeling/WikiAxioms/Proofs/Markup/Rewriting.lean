import WikiAxioms.Proofs.Markup.Marks
import WikiAxioms.Proofs.Markup.Reordering
import WikiAxioms.Proofs.Markup.Slices

/-!
# Declarations read and written again

In a text without opening nowiki markers, each name, key and value is a slice of the text, trimmed.
A slice has the tokens that it was read from, and trimming leaves its marks as they are. So it may
be written where it was read from, or in markers, and a template that was read is read again from
what it is written as.
-/

namespace WikiAxioms.Markup

/-! ## Trimmed slices -/

theorem trim_isInfix (t : Text) : t.trim <:+: t := by
  obtain ⟨lead, trail, ht, -⟩ := Text.exists_trim t
  exact ⟨lead, trail, ht.symm⟩

theorem trimValue_isInfix (t : Text) : trimValue t <:+: t := by
  rw [trimValue]
  split
  · exact List.infix_rfl
  · exact trim_isInfix t

theorem trimValue_trimValue (t : Text) : trimValue (trimValue t) = trimValue t := by
  by_cases h : t.trim = []
  · simp [trimValue, h]
  · simp [trimValue, h, Text.trim_trim]

theorem marks_tokens_trimValue (t : Text) : marks (tokens (trimValue t)) = marks (tokens t) := by
  rw [trimValue]
  split
  · rfl
  · exact marks_tokens_trim t

section Slice

variable {source : Text} {f : Field} {outside : Token → Prop}
  (hs : ¬ nowikiOpening <:+: source) (hf : f <:+: tokens source)

include hs hf

theorem contents_eq_sources : contents f = sources f :=
  flatMap_content fun _ hb => hs (isInfix_of_nowiki_mem (hf.subset hb)).1

section Pieces

variable (hw : ∀ k, IsWord k → outside k) (hp : Pieces outside f)

include hw hp

/-- A part of a slice that keeps its marks may be written where the slice was read from. -/
theorem spells_of_marks_eq {x : Text} (hx : x <:+: contents f)
    (hm : marks (tokens x) = marks (tokens (contents f))) :
    Spells outside x x ∧ ¬ nowikiOpening <:+: x := by
  rw [contents_eq_sources hs hf] at hx hm
  rw [tokens_sources hf] at hm
  have ho : ¬ nowikiOpening <:+: x := fun h => hs (h.trans (hx.trans (sources_isInfix hf)))
  exact ⟨⟨hp.of_marks_eq hw hm.symm, contents_tokens fun _ hb => ho (isInfix_of_nowiki_mem hb).1⟩,
    ho⟩

theorem isLabel_trim (hb : (contents f).isBlank = false) :
    IsLabel outside (contents f).trim := by
  obtain ⟨hx, ho⟩ := spells_of_marks_eq hs hf hw hp (trim_isInfix _) (marks_tokens_trim _)
  have hn : (contents f).trim ≠ [] := by
    rw [Ne, Text.trim_eq_nil_iff, hb]
    exact Bool.false_ne_true
  exact
    { spells := hx
      trimmed := Text.trim_trim _
      nonblank := Text.isBlank_of_trim_eq_self (Text.trim_trim _) hn
      terminated := char_not_mem_tokens ho }

/-- A value is written in markers or as it was. -/
theorem spells_protect_trimValue :
    Spells outside (Template.protect (trimValue (contents f))) (trimValue (contents f)) ∧
      ¬ nowikiOpening <:+: trimValue (contents f) := by
  obtain ⟨hx, ho⟩ :=
    spells_of_marks_eq hs hf hw hp (trimValue_isInfix _) (marks_tokens_trimValue _)
  exact ⟨spells_protect hw fun _ => hx, ho⟩

end Pieces

theorem isLegible_of_declares {a : Argument} (h : Declares f a) :
    a.IsLegible ∧ ¬ nowikiOpening <:+: a.value := by
  rcases declares_iff.mp h with ⟨hk, rfl⟩ | ⟨key, value, rfl, hk, hv, hb, rfl⟩
  · obtain ⟨hv, ho⟩ := spells_protect_trimValue hs hf (fun _ => .word) hk
    exact ⟨.positional hv (trimValue_trimValue _), ho⟩
  · -- the key and the value are slices by themselves
    have hkey : key <:+: tokens source := (List.prefix_append key _).isInfix.trans hf
    have hvalue : value <:+: tokens source :=
      ((List.suffix_cons _ value).trans (List.suffix_append key _)).isInfix.trans hf
    obtain ⟨hp, ho⟩ := spells_protect_trimValue hs hvalue (fun _ hw => .key (.word hw)) hv
    exact ⟨.named (isLabel_trim hs hkey (fun _ => .word) hk hb) hp (trimValue_trimValue _), ho⟩

end Slice

/-! ## Templates -/

/-- Every argument of a template is one of those that it was made of. -/
theorem mem_of_mem_arguments {name : Text} {as : List Argument} {a : Argument}
    (h : a ∈ (Template.ofArguments name as).arguments) : a ∈ as := by
  rw [Template.arguments, List.mem_append, List.mem_map, List.mem_map] at h
  rcases h with ⟨v, hv, rfl⟩ | ⟨e, he, rfl⟩
  · obtain ⟨a, ha, hav⟩ := List.mem_filterMap.mp hv
    cases a with
    | positional value => exact Option.some.inj hav ▸ ha
    | named key value => cases hav
  · have hg := (get?_ofArguments name as e.1).symm.trans
      (NamedArguments.get?_eq_some_iff_mem.mpr he)
    obtain ⟨a, hl, hv⟩ := Option.map_eq_some_iff.mp hg
    obtain ⟨ha, hk⟩ := List.mem_filter.mp (List.mem_of_getLast? hl)
    cases a with
    | positional value => simp at hk
    | named key value =>
      have hk : key = e.1 := by simpa using hk
      have hv : value = e.2 := hv
      rwa [← hk, ← hv]

/-- A template that was read from a text without opening markers is read again, and is then written
as before. -/
theorem ofText_render_of_ofText {source : Text} (hs : ¬ nowikiOpening <:+: source) {t : Template}
    (h : Template.ofText source = .ok t) : Template.ofText t.render = .ok t := by
  obtain ⟨front, name, fields, back, arguments, hts, -, hn, -, hb, ha, rfl⟩ :=
    denotes_iff.mp (denotes_of_ofText h)
  have hname : name <:+: tokens source := by
    rw [hts, declarationTokens]
    exact ⟨front ++ [.opening], fields.flatMap (.pipe :: ·) ++ [.closing] ++ back, by simp⟩
  have hfield : ∀ f ∈ fields, f <:+: tokens source := by
    intro f hf
    obtain ⟨fs, gs, rfl⟩ := List.append_of_mem hf
    rw [hts, declarationTokens]
    exact ⟨front ++ .opening :: name ++ fs.flatMap (.pipe :: ·) ++ [.pipe],
      gs.flatMap (.pipe :: ·) ++ [.closing] ++ back, by simp⟩
  obtain ⟨hd, rfl⟩ := forall₂_declares_iff.mp ha
  have hl : ∀ a ∈ (Template.ofArguments (contents name).trim (fields.map argumentOf)).arguments,
      a.IsLegible ∧ ¬ nowikiOpening <:+: a.value := by
    intro a ham
    obtain ⟨f, hf, rfl⟩ := List.mem_map.mp (mem_of_mem_arguments ham)
    exact isLegible_of_declares hs (hfield f hf) (hd f hf)
  exact ofText_of_denotes (denotes_render
    (isLabel_trim hs hname (fun _ hw => .key (.word hw)) hn hb) (fun a ham => (hl a ham).1)
    fun a ham => (hl a (List.dropLast_subset _ ham)).2)

/-- Links in the name, in a key and in values, a stray closing marker, a key that comes twice and a
blank value. -/
theorem ofText_render_of_ofText_links :
    let source : Text :=
      "\x7b\x7b [[a|b=c]] ]]|[[u|v]]|[[k|=]]=1| |[[k|=]] = [[p|q]]=</nowiki>\x7d\x7d"
    let t : Template := ⟨"[[a|b=c]] ]]", ["[[u|v]]", " "],
      ⟨[("[[k|=]]", "[[p|q]]=</nowiki>")], by decide⟩⟩
    ¬ nowikiOpening <:+: source ∧ Template.ofText source = .ok t ∧
      Template.ofText t.render = .ok t := by
  intro source t
  have hs : ¬ nowikiOpening <:+: source := by decide +kernel
  have hr : readDeclaration (tokens source) = .ok
      ([.text " ", .linkOpening, .text "a", .pipe, .text "b", .equals, .text "c", .linkClosing,
          .text " ", .linkClosing],
        [[.linkOpening, .text "u", .pipe, .text "v", .linkClosing],
          [.linkOpening, .text "k", .pipe, .equals, .linkClosing, .equals, .text "1"],
          [.text " "],
          [.linkOpening, .text "k", .pipe, .equals, .linkClosing, .text " ", .equals, .text " ",
            .linkOpening, .text "p", .pipe, .text "q", .linkClosing, .equals, .char "<",
            .text "/nowiki>"]]) := by
    decide +kernel
  have h : Template.ofText source = .ok t := by
    rw [Template.ofText, if_neg (by decide)]
    simp only [hr]
    rfl
  exact ⟨hs, h, ofText_render_of_ofText hs h⟩

end WikiAxioms.Markup
