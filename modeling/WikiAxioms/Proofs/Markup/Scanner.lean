import WikiAxioms.Proofs.Markup.Segments

/-!
# Scanners break down nowhere

A scanner starts between characters and stops between characters, since all it searches for are
characters of one byte. So it can always go on: no depth falls below zero, no offset lies within a
character, and every declaration moves it forward. What it yields one after the other are the
declarations of the page.
-/

namespace WikiAxioms.Markup

/-! ## The templates of a text, one at a time -/

theorem templates_of_cutAt_eq_none {t : Text} (h : t.cutAt ['\x7b', '\x7b'] = none)
    (offset : Nat) : templates offset t = [] := by
  fun_induction templates offset t with
  | case1 => rfl
  | case2 => rfl
  | case3 offset c d r hb =>
    obtain ⟨rfl, rfl⟩ := hb
    exact absurd (List.prefix_append ['\x7b', '\x7b'] r).isInfix (Text.cutAt_eq_none_iff.mp h)
  | case4 offset c d r _ ih =>
    refine ih (Text.cutAt_eq_none_iff.mpr fun hi => Text.cutAt_eq_none_iff.mp h ?_)
    exact hi.trans (List.suffix_cons c (d :: r)).isInfix

theorem templates_of_cutAt_eq_some {t prose r : Text}
    (h : t.cutAt ['\x7b', '\x7b'] = some (prose, r)) (offset : Nat) :
    let template := '\x7b' :: '\x7b' :: (balanced 1 r).1
    templates offset t = ⟨offset + prose.byteLength, template⟩ ::
      templates (offset + (prose ++ template).byteLength) (balanced 1 r).2 := by
  fun_induction templates offset t generalizing prose with
  | case1 => cases h
  | case2 offset c =>
    have hl := congrArg List.length (Text.eq_of_cutAt h)
    simp at hl
    omega
  | case3 offset c d s hb =>
    obtain ⟨rfl, rfl⟩ := hb
    have ha : Text.after? ('\x7b' :: '\x7b' :: s) ['\x7b', '\x7b'] = some s :=
      Text.after?_append ['\x7b', '\x7b'] s
    rw [Text.cutAt, ha] at h
    cases h
    rfl
  | case4 offset c d s hb ih =>
    have ha : Text.after? (c :: d :: s) ['\x7b', '\x7b'] = none := by
      rw [Text.after?_eq_none_iff]
      rintro ⟨_, he⟩
      simp only [List.cons_append, List.cons.injEq] at he
      exact hb ⟨he.1.symm, he.2.1.symm⟩
    rw [Text.cutAt, ha, Option.map_eq_some_iff] at h
    obtain ⟨⟨prose', r'⟩, hc, he⟩ := h
    cases he
    have hi := ih hc
    simp only [List.cons_append, Text.byteLength_cons, Nat.add_assoc] at hi ⊢
    exact hi

/-- Where the bytes of a template end, its text ends. -/
theorem templateEnd?_of_reads {depth left : Nat} {body rest : List UInt8}
    (h : Reads depth body rest left) (hd : 0 < depth) (i : Nat) :
    templateEnd? depth i (body ++ rest) = some (i + body.length) := by
  induction h generalizing i with
  | closed => cases hd
  | ended => rfl
  | opening _ ih =>
    rw [List.cons_append, List.cons_append, templateEnd?, if_pos ⟨rfl, rfl⟩, ih (Nat.succ_pos _)]
    simp [Nat.add_assoc, Nat.add_comm 2]
  | @closing depth _ _ _ h ih =>
    rw [List.cons_append, List.cons_append, templateEnd?, if_neg (by decide), if_pos ⟨rfl, rfl⟩,
      if_neg (Nat.succ_ne_zero depth)]
    cases depth with
    | zero =>
      cases h
      rfl
    | succ depth => simp [ih (Nat.succ_pos _), Nat.add_assoc, Nat.add_comm 2]
  | @single depth _ b body rest hn _ ih =>
    have hi := ih (Nat.succ_pos _) (i + 1)
    rw [List.cons_append]
    cases he : body ++ rest with
    | nil =>
      obtain ⟨rfl, -⟩ := List.append_eq_nil_iff.mp he
      rfl
    | cons a bytes =>
      rw [he] at hn hi
      rw [templateEnd?, if_neg, if_neg, hi]
      · simp [Nat.add_assoc, Nat.add_comm 1]
      · rintro ⟨rfl, rfl⟩
        exact hn (.inr ⟨_, rfl⟩)
      · rintro ⟨rfl, rfl⟩
        exact hn (.inl ⟨_, rfl⟩)

/-! ## Turns of a scanner -/

namespace Scanner

/-- The scanner that has read `front` and nothing else. -/
def between (front unread : Text) : Scanner := ⟨front ++ unread, front.byteLength⟩

/-- A scanner of a page, however often it has been asked for the next declaration. -/
inductive IsInUse (page : Text) : Scanner → Prop
  | ofPage : IsInUse page (ofPage page)
  | next {s after : Scanner} {result : Option Excerpt} : IsInUse page s →
      s.next? = some (result, after) → IsInUse page after

/-- What a scanner yields when it is asked until there is nothing any more. -/
inductive Yields : Scanner → List Excerpt → Prop
  | done {s after : Scanner} : s.next? = some (none, after) → Yields s []
  | more {s after : Scanner} {e : Excerpt} {es : List Excerpt} : s.next? = some (some e, after) →
      Yields after es → Yields s (e :: es)

/-- Where a scanner looks for a template it finds the first one of the text, and its end. -/
theorem template?_between (front unread : Text) :
    ((between front unread).template? = some none ∧ templates front.byteLength unread = []) ∨
      ∃ e front' unread', front' ++ unread' = front ++ unread ∧
        front.byteLength < front'.byteLength ∧ unread'.length < unread.length ∧
        (between front unread).template? = some (some (e, front'.byteLength)) ∧
        templates front.byteLength unread = e :: templates front'.byteLength unread' := by
  cases h : unread.cutAt ['\x7b', '\x7b'] with
  | none =>
    refine .inl ⟨?_, templates_of_cutAt_eq_none h _⟩
    simp [template?, between, Text.dropBytes?_append, h]
  | some parts =>
    obtain ⟨prose, r⟩ := parts
    let template := '\x7b' :: '\x7b' :: (balanced 1 r).1
    let front' := front ++ (prose ++ template)
    let first := front.byteLength + prose.byteLength
    have hunread : prose ++ template ++ (balanced 1 r).2 = unread := by
      rw [Text.eq_of_cutAt h]
      simp [template, balanced_append]
    have hpage : front' ++ (balanced 1 r).2 = front ++ unread := by
      rw [List.append_assoc, hunread]
    have hfront' : front'.byteLength = front.byteLength + (prose ++ template).byteLength :=
      Text.byteLength_append ..
    have hlength : Text.byteLength template = 2 + (balanced 1 r).1.utf8.length := by
      rw [← Text.length_utf8, utf8_opening, List.length_cons, List.length_cons, Nat.add_comm 2]
    have hfirst : first + Text.byteLength template = front'.byteLength := by
      rw [hfront', Text.byteLength_append, Nat.add_assoc]
    have hend : templateEnd? 0 first ((front ++ unread).utf8.drop first) =
        some front'.byteLength := by
      have hdrop : (front ++ unread).utf8.drop first =
          openingByte :: openingByte :: ((balanced 1 r).1.utf8 ++ (balanced 1 r).2.utf8) := by
        have hf : first = (front ++ prose).utf8.length := by
          rw [Text.length_utf8, Text.byteLength_append]
        rw [← hunread, List.append_assoc, ← List.append_assoc, Text.utf8_append, hf, List.drop_left]
        exact Text.utf8_append ..
      obtain ⟨left, hreads⟩ := reads_balanced Nat.one_pos r
      rw [hdrop, templateEnd?, if_pos ⟨rfl, rfl⟩, templateEnd?_of_reads hreads Nat.one_pos,
        Nat.add_assoc, ← hlength, hfirst]
    have hslice : (front ++ unread).slice? first front'.byteLength = some template := by
      have hs := Text.slice?_append (front ++ prose) template (balanced 1 r).2
      rwa [List.append_assoc front, hpage, Text.byteLength_append front prose] at hs
    refine .inr ⟨⟨first, template⟩, front', (balanced 1 r).2, hpage, ?_, ?_, ?_, ?_⟩
    · rw [hfront', Text.byteLength_append, hlength]
      omega
    · rw [← hunread]
      simp [template]
      omega
    · simp only [template?, between, Text.dropBytes?_append, h, hend, hslice, first,
        Option.pure_def, Option.bind_eq_bind, Option.bind_some]
    · rw [hfront']
      exact templates_of_cutAt_eq_some h _

/-- The next declaration is the first one of the text, and the scanner moves to its end. When there
is none, there will be none. -/
theorem next?_between (front unread : Text) :
    let found := (templates front.byteLength unread).filter fun e => declaresConstraint e.text
    ∃ front' unread', front' ++ unread' = front ++ unread ∧
      ((between front unread).next? = some (none, between front' unread') ∧ found = [] ∧
          (between front' unread').next? = some (none, between front' unread') ∨
        ∃ e, (between front unread).next? = some (some e, between front' unread') ∧
          front.byteLength < front'.byteLength ∧ found = e ::
            (templates front'.byteLength unread').filter fun e => declaresConstraint e.text) := by
  intro found
  induction hn : unread.length using Nat.strong_induction_on generalizing front unread with
  | _ n ih =>
    rcases template?_between front unread with
      ⟨ht, hnone⟩ | ⟨e, front', unread', hpage, hlt, hless, ht, hsome⟩
    · have hnext : (between front unread).next? = some (none, between front unread) := by
        rw [next?, ht]
        split <;> rfl
      exact ⟨front, unread, rfl, .inl ⟨hnext, by simp [found, hnone], hnext⟩⟩
    · have hstart : (between front unread).position < (between front unread).page.byteLength := by
        have hl := congrArg Text.byteLength hpage
        rw [Text.byteLength_append] at hl
        exact Nat.lt_of_lt_of_le hlt (hl ▸ Nat.le_add_right ..)
      have hmove : { between front unread with position := front'.byteLength } =
          between front' unread' := by
        rw [between, between, hpage]
      by_cases hd : declaresConstraint e.text = true
      · refine ⟨front', unread', hpage, .inr ⟨e, ?_, hlt, by simp [found, hsome, hd]⟩⟩
        rw [next?, if_pos hstart, ht]
        simp only [hd, if_true, hmove]
      · have hnext : (between front unread).next? = (between front' unread').next? := by
          rw [next?, if_pos hstart, ht]
          simp only [hd, hmove]
          exact if_pos hlt
        have hfound : found =
            (templates front'.byteLength unread').filter fun e => declaresConstraint e.text := by
          simp [found, hsome, hd]
        obtain ⟨front'', unread'', hpage', hcases⟩ := ih _ (hn ▸ hless) front' unread' rfl
        refine ⟨front'', unread'', hpage'.trans hpage, ?_⟩
        rw [hnext, hfound]
        rcases hcases with h | ⟨e', he, hlt', hf⟩
        · exact .inl h
        · exact .inr ⟨e', he, Nat.lt_trans hlt hlt', hf⟩

/-- A scanner that stands between characters yields the declarations behind it. -/
theorem yields_between (front unread : Text) :
    (between front unread).Yields
      ((templates front.byteLength unread).filter fun e => declaresConstraint e.text) := by
  generalize hf :
    (templates front.byteLength unread).filter (fun e => declaresConstraint e.text) = es
  induction es generalizing front unread with
  | nil =>
    obtain ⟨front', unread', -, ⟨hn, -⟩ | ⟨e, -, -, he⟩⟩ := next?_between front unread
    · exact .done hn
    · cases he.symm.trans hf
  | cons e es ih =>
    obtain ⟨front', unread', -, ⟨-, he, -⟩ | ⟨e', hn, -, he⟩⟩ := next?_between front unread
    · cases he.symm.trans hf
    · obtain ⟨rfl, hes⟩ := List.cons.inj (he.symm.trans hf)
      exact .more hn (ih front' unread' hes)

/-- A scanner in use stands between characters of its page. -/
theorem IsInUse.exists_between {page : Text} {s : Scanner} (h : IsInUse page s) :
    ∃ front unread, front ++ unread = page ∧ s = between front unread := by
  induction h with
  | ofPage => exact ⟨[], page, rfl, rfl⟩
  | next _ hn ih =>
    obtain ⟨front, unread, rfl, rfl⟩ := ih
    obtain ⟨front', unread', hpage, ⟨hn', -⟩ | ⟨e, hn', -⟩⟩ := next?_between front unread
    · rw [hn'] at hn
      cases hn
      exact ⟨front', unread', hpage, rfl⟩
    · rw [hn'] at hn
      cases hn
      exact ⟨front', unread', hpage, rfl⟩

end Scanner

/-- The templates of a page are its bytes cut in the only way there is, one behind the other, and
each is the part of the page that it takes up. Those that bear the mark of constraints are the
declarations of the page. A scanner yields them in order: it never breaks down, and each time it is
asked it moves forward or has come to the end for good. -/
theorem declarations_segments (page : Text) :
    let segments := templates 0 page
    (∀ spans, Segments 0 page.utf8 spans ↔ spans = segments.map Excerpt.span) ∧
      (∀ e ∈ segments, page.slice? e.span.first e.span.last = some e.text ∧
        e.span.first < e.span.last) ∧
      (segments.Pairwise fun e later => e.offset < later.offset ∧ e.span.last ≤ later.span.first) ∧
      declarations page = segments.filter (fun e => IsMarked e.text) ∧
      (Scanner.ofPage page).Yields (declarations page) ∧
      ∀ s, Scanner.IsInUse page s → ∃ result after, s.next? = some (result, after) ∧
        (s.position < after.position ∨ result = none ∧ after.next? = some (none, after)) := by
  intro segments
  have hsegments : Segments 0 page.utf8 (segments.map Excerpt.span) := segments_templates 0 page
  obtain ⟨hspans, hordered⟩ := hsegments.ordered
  have hlt : ∀ e ∈ segments, e.span.first < e.span.last := fun e he =>
    (hspans e.span (List.mem_map_of_mem he)).2
  refine ⟨fun spans => ⟨fun h => h.unique hsegments, fun h => h ▸ hsegments⟩, ?_, ?_, ?_, ?_, ?_⟩
  · exact fun e he => ⟨slice?_of_mem_templates he, hlt e he⟩
  · refine (List.pairwise_map.mp hordered).imp_of_mem fun he _ hle => ⟨?_, hle⟩
    exact Nat.lt_of_lt_of_le (hlt _ he) hle
  · exact List.filter_congr fun e _ => by simp [← declaresConstraint_iff_isMarked]
  · exact Scanner.yields_between [] page
  · intro s hs
    obtain ⟨front, unread, -, rfl⟩ := hs.exists_between
    obtain ⟨front', unread', -, ⟨hn, -, he⟩ | ⟨e, hn, hl, -⟩⟩ := Scanner.next?_between front unread
    · exact ⟨_, _, hn, .inr ⟨rfl, he⟩⟩
    · exact ⟨_, _, hn, .inl hl⟩

end WikiAxioms.Markup
