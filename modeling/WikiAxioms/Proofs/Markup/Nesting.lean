import WikiAxioms.Compile
import WikiAxioms.Proofs.Markup.Segments

/-!
# Declarations that a page breaks off or nests

A page is cut by pairs of braces only, so what it declares may be no declaration: another template
may stand in it, a brace may be left over, or the page may end before it does. Without nowiki
markers the tokens of such a piece show every brace, and it is refused.
-/

namespace WikiAxioms.Markup

/-- All bytes of a template are read, and it is not closed. -/
def IsCutOff (template : Text) : Prop :=
  ∃ (body : Text) (depth : Nat), template = '\x7b' :: '\x7b' :: body ∧
    Reads 1 body.utf8 [] (depth + 1)

/-- A brace stands behind the first two bytes and before the last two. -/
def HasInnerBrace (template : Text) : Prop :=
  ∃ (front : Text) (c : Char) (back : Text), template = front ++ c :: back ∧ isBraceChar c = true ∧
    2 ≤ front.byteLength ∧ 2 ≤ back.byteLength

/-- What closes open templates starts like the text. -/
theorem head?_balanced (depth : Nat) (t : Text) : (balanced depth t).1.head? = t.head? := by
  fun_induction balanced depth t <;> rfl

/-- Nothing is left of a template when its own braces are balanced again. -/
theorem balanced_balanced (depth : Nat) (t : Text) :
    balanced depth (balanced depth t).1 = ((balanced depth t).1, []) := by
  fun_induction balanced depth t with
  | case1 => rfl
  | case2 => rfl
  | case3 depth c d r h ih =>
    rw [Prod.map_fst, balanced, if_pos h, ih]
    rfl
  | case4 depth c d r hn h hle => rw [balanced, if_neg hn, if_pos h, if_pos hle]
  | case5 depth c d r hn h hlt ih =>
    rw [Prod.map_fst, balanced, if_neg hn, if_pos h, if_neg hlt, ih]
    rfl
  | case6 depth c d r ho hc ih =>
    have hd := head?_balanced depth (d :: r)
    rw [Prod.map_fst]
    cases hs : (balanced depth (d :: r)).1 with
    | nil => simp [hs] at hd
    | cons d' s =>
      obtain rfl : d' = d := by simpa [hs] using hd
      rw [hs] at ih
      rw [balanced, if_neg ho, if_neg hc, ih]
      rfl

/-- Between two pairs of braces and no others, nothing is cut off. -/
theorem not_isCutOff {inner : Text} (h : ∀ c ∈ inner, isBraceChar c = false) :
    ¬ IsCutOff ('\x7b' :: '\x7b' :: (inner ++ ['\x7d', '\x7d'])) := by
  rintro ⟨body, depth, he, hr⟩
  obtain rfl : inner ++ ['\x7d', '\x7d'] = body := by simpa using he
  have hclosed : Reads 1 (inner ++ ['\x7d', '\x7d']).utf8 [] 0 := by
    rw [Text.utf8_append]
    exact .append (ne_of_mem_utf8 h) (.closing (.closed []))
  cases (hr.unique hclosed rfl).2.2

theorem not_hasInnerBrace {inner : Text} (h : ∀ c ∈ inner, isBraceChar c = false) :
    ¬ HasInnerBrace ('\x7b' :: '\x7b' :: (inner ++ ['\x7d', '\x7d'])) := by
  rintro ⟨front, c, back, he, hc, hf, hb⟩
  have hfront : ∃ front', front = '\x7b' :: '\x7b' :: front' := by
    rcases front with _ | ⟨a, _ | ⟨b, front⟩⟩
    · cases hf
    · obtain rfl : '\x7b' = a := (List.cons.inj he).1
      exact absurd hf (by decide)
    · simp only [List.cons_append, List.cons.injEq] at he
      obtain ⟨rfl, rfl, -⟩ := he
      exact ⟨front, rfl⟩
  obtain ⟨front, rfl⟩ := hfront
  -- what follows the brace is more than one closing brace
  have hback : back ≠ ['\x7d'] := by
    rintro rfl
    exact absurd hb (by decide)
  have hmem : c ∈ inner := by
    simp only [List.cons_append, List.cons.injEq, true_and] at he
    rcases List.append_eq_append_iff.mp he with ⟨s, -, hs⟩ | ⟨s, hi, hs⟩
    · rcases s with _ | ⟨a, _ | ⟨b, s⟩⟩
      · exact absurd (List.cons.inj hs).2.symm hback
      · simp only [List.cons_append, List.nil_append, List.cons.injEq] at hs
        rw [← hs.2.2] at hb
        cases hb
      · simp at hs
    · rcases s with _ | ⟨a, s⟩
      · exact absurd (List.cons.inj hs).2 hback
      · rw [hi, (List.cons.inj hs).1]
        simp
  rw [h c hmem] at hc
  cases hc

/-- What a page without nowiki markers declares is read only if no other braces stand in it than the
pairs at its ends. -/
theorem exists_inner_of_mem_declarations {page : Text} (hn : ¬ nowikiOpening <:+: page)
    {e : Excerpt} (he : e ∈ declarations page) {t : Template} (h : Template.ofText e.text = .ok t) :
    ∃ inner, e.text = '\x7b' :: '\x7b' :: (inner ++ ['\x7d', '\x7d']) ∧
      ∀ c ∈ inner, isBraceChar c = false := by
  have hpart : e.text <:+: page := by
    obtain ⟨front, r, rfl, rfl⟩ := exists_of_mem_templates (List.mem_of_mem_filter he)
    refine ⟨front, (balanced 1 r).2, ?_⟩
    rw [List.append_assoc, List.cons_append, List.cons_append, balanced_append]
  obtain ⟨front, r, -, rfl⟩ := exists_of_mem_templates (List.mem_of_mem_filter he)
  obtain ⟨inner, back, hd, -, hinner⟩ := exists_inner_of_ofText h (List.prefix_append _ _)
  have hbrace : ∀ c ∈ sources inner, isBraceChar c = false := by
    intro c hc
    obtain ⟨k, hk, hc⟩ := List.mem_flatMap.mp hc
    have hk := hinner k hk
    refine isBraceChar_of_mem_source (isLexeme_of_mem_tokens hk.1) hk.2 ?_ c hc
    rintro body rfl
    exact hn ((isInfix_of_nowiki_mem hk.1).1.trans hpart)
  -- the closing braces of the declaration are where the template ends
  have hclosed : balanced 1 (sources inner ++ '\x7d' :: '\x7d' :: sources back) =
      (sources inner ++ ['\x7d', '\x7d'], sources back) :=
    balanced_body (isPairless_of_forall hbrace)
      (fun hl => by cases hbrace _ (List.mem_of_getLast? hl)) _
  have hr : (balanced 1 r).1 = sources inner ++ '\x7d' :: '\x7d' :: sources back := by
    simpa using hd
  rw [← hr, balanced_balanced] at hclosed
  exact ⟨sources inner, by rw [(Prod.mk.inj hclosed).1], hbrace⟩

/-- What is cut off at the end of a page without nowiki markers, or holds a template or a stray
brace, is a declaration for the page only: it is refused, and becomes no constraint. -/
theorem ofText_error_of_mem_declarations {page : Text} (hn : ¬ nowikiOpening <:+: page)
    {e : Excerpt} (he : e ∈ declarations page) (h : IsCutOff e.text ∨ HasInnerBrace e.text) :
    ∃ fault, Template.ofText e.text = .error fault ∧
      ∀ r property, compile r property e.text = (.error (.syntactic fault), []) := by
  cases hd : Template.ofText e.text with
  | error fault => exact ⟨fault, rfl, fun r property => by rw [compile, hd]⟩
  | ok t =>
    obtain ⟨inner, hi, hb⟩ := exists_inner_of_mem_declarations hn he hd
    rw [hi] at h
    exact absurd h (not_or.mpr ⟨not_isCutOff hb, not_hasInnerBrace hb⟩)

/-- Three braces open the first declaration, with a template in it; the page breaks off the second
one behind a character of two bytes. -/
theorem ofText_error_of_mem_declarations_nested :
    let nested : Text := "\x7b\x7b\x7bConstraint:One of|list=\x7b\x7bQ|5\x7d\x7d\x7d\x7d"
    let broken : Text := "\x7b\x7bconstraint:Format|pattern=é"
    let page : Text := "É " ++ nested ++ "\x7d " ++ broken
    ¬ nowikiOpening <:+: page ∧
      (⟨3, nested⟩ ∈ declarations page ∧ HasInnerBrace nested ∧
        ∃ fault, Template.ofText nested = .error fault ∧
          ∀ r property, compile r property nested = (.error (.syntactic fault), [])) ∧
      ⟨40, broken⟩ ∈ declarations page ∧ IsCutOff broken ∧
        ∃ fault, Template.ofText broken = .error fault ∧
          ∀ r property, compile r property broken = (.error (.syntactic fault), []) := by
  intro nested broken page
  have hn : ¬ nowikiOpening <:+: page := fun h =>
    absurd (h.subset (List.mem_cons_self ..)) (by decide : '<' ∉ page)
  have hnested : ⟨3, nested⟩ ∈ declarations page := by decide +kernel
  have hbroken : ⟨40, broken⟩ ∈ declarations page := by decide +kernel
  have hinner : HasInnerBrace nested :=
    ⟨['\x7b', '\x7b'], '\x7b', _, rfl, rfl, by decide, by decide⟩
  have hcut : IsCutOff broken := by
    have hplain : ∀ c ∈ broken.drop 2, isBraceChar c = false := isBraceChar_of_all (by decide)
    have h := Reads.append (ne_of_mem_utf8 hplain) (.ended 0)
    rw [List.append_nil] at h
    exact ⟨broken.drop 2, 0, rfl, h⟩
  exact ⟨hn, ⟨hnested, hinner, ofText_error_of_mem_declarations hn hnested (.inr hinner)⟩, hbroken,
    hcut, ofText_error_of_mem_declarations hn hbroken (.inl hcut)⟩

end WikiAxioms.Markup
