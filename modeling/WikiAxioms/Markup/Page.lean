import WikiAxioms.Text.Basic

/-!
# Declarations on a page

A page mixes constraint declarations with prose and other templates. One pass over the page cuts it
into templates, each from its opening braces to the closing braces that balance them, whatever is
nested in it, and keeps those whose name says that they declare a constraint.
-/

namespace WikiAxioms.Markup

/-- A piece of a page and the byte at which it starts. -/
structure Excerpt where
  offset : Nat
  text : Text
  deriving DecidableEq

/-- The part of a text up to the braces that close `depth` open pairs, and what follows it. Braces
are taken in pairs; without enough closing pairs the part is the whole text. -/
def balanced (depth : Nat) : Text → Text × Text
  | [] => ([], [])
  | c :: t =>
    match t with
    | [] => ([c], [])
    | d :: r =>
      if c = '\x7b' ∧ d = '\x7b' then
        (balanced (depth + 1) r).map (fun s => c :: d :: s) id
      else if c = '\x7d' ∧ d = '\x7d' then
        if depth ≤ 1 then ([c, d], r)
        else (balanced (depth - 1) r).map (fun s => c :: d :: s) id
      else (balanced depth (d :: r)).map (fun s => c :: s) id

theorem balanced_append (depth : Nat) (t : Text) :
    (balanced depth t).1 ++ (balanced depth t).2 = t := by
  fun_induction balanced depth t <;> simp_all

theorem balanced_length (depth : Nat) (t : Text) : (balanced depth t).2.length ≤ t.length := by
  have h := congrArg List.length (balanced_append depth t)
  rw [List.length_append] at h
  omega

/-- The templates of a text that starts at the byte `offset`. -/
def templates (offset : Nat) : Text → List Excerpt
  | [] => []
  | c :: t =>
    match t with
    | [] => []
    | d :: r =>
      if c = '\x7b' ∧ d = '\x7b' then
        let parts := balanced 1 r
        let template := c :: d :: parts.1
        ⟨offset, template⟩ :: templates (offset + Text.byteLength template) parts.2
      else templates (offset + c.utf8Size) (d :: r)
termination_by t => t.length
decreasing_by
  · have h := balanced_length 1 r
    simp only [List.length_cons]
    omega
  · simp

/-- What the name of a constraint declaration starts with, in small letters. -/
def constraintMark : Text := ['c', 'o', 'n', 's', 't', 'r', 'a', 'i', 'n', 't', ':']

/-- Whether a text starts with the mark of constraints, in letters of either case. -/
def hasConstraintMark (t : Text) : Bool :=
  Text.sameLetters (t.take constraintMark.length) constraintMark

/-- Whether a template declares a constraint: braces and white space come before the mark. -/
def declaresConstraint (template : Text) : Bool :=
  hasConstraintMark (Text.trimStart (template.dropWhile (· == '\x7b')))

/-- The constraint declarations of a page, in order. -/
def declarations (page : Text) : List Excerpt :=
  (templates 0 page).filter fun e => declaresConstraint e.text

end WikiAxioms.Markup
