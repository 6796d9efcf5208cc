import Mathlib.Data.List.Induction
import WikiAxioms.Output.Functional
import WikiAxioms.Output.Triples

/-!
# What backends promise

A backend refuses exactly the kinds it does not support, in its own name, and otherwise appends a
text that is never empty: the block of the constraint. Whoever drives a backend needs to know no
more about it. What a whole output should be is said here too, without reference to how it is
written: the `document` of some constraints.
-/

namespace WikiAxioms.Output

namespace Backend

/-- The text that is appended for a constraint with an ordinal. -/
def blockText (b : Backend) (ordinal : Nat) (c : Constraint) : Text := (b.append ordinal c []).2

/-- The blocks of constraints that are numbered from one. -/
def blocks (b : Backend) (cs : List Constraint) : Text :=
  (cs.mapIdx fun i c => b.blockText (i + 1) c).flatten

/-- The whole output for constraints, nothing if there are none. -/
def document (b : Backend) (cs : List Constraint) : Text :=
  if cs = [] then [] else b.prelude.getD [] ++ b.blocks cs

/-- What a constraint adds to the output behind `done` others. -/
def piece (b : Backend) (done : Nat) (c : Constraint) : Text :=
  (if done = 0 then b.prelude.getD [] else []) ++ b.blockText (done + 1) c

/-- The constraints that a backend has a form for. -/
def supported (b : Backend) (cs : List Constraint) : List Constraint :=
  cs.filter fun c => b.supports c.kind

/-- Support is known beforehand, refusals say what was refused and by whom and leave the buffer
alone, and what is appended is not empty and the same behind every buffer. -/
structure IsLawful (b : Backend) : Prop where
  appends (ordinal : Nat) {c : Constraint} : b.supports c.kind = true →
    ∃ text ≠ [], ∀ buffer, b.append ordinal c buffer = (.ok (), buffer ++ text)
  refuses (ordinal : Nat) {c : Constraint} : b.supports c.kind = false →
    ∀ buffer, b.append ordinal c buffer = (.error ⟨c.kind, b.name⟩, buffer)

variable {b : Backend}

@[simp] theorem document_nil (b : Backend) : b.document [] = [] := rfl

theorem blocks_append (b : Backend) (cs : List Constraint) (c : Constraint) :
    b.blocks (cs ++ [c]) = b.blocks cs ++ b.blockText (cs.length + 1) c := by
  simp [blocks, List.mapIdx_concat]

/-- A document grows by one piece for each constraint. -/
theorem document_append (b : Backend) (cs : List Constraint) (c : Constraint) :
    b.document (cs ++ [c]) = b.document cs ++ b.piece cs.length c := by
  rw [document, blocks_append, if_neg (by simp)]
  by_cases h : cs = []
  · simp [h, piece, blocks]
  · have hl : cs.length ≠ 0 := by simpa using h
    simp [document, h, piece, hl]

/-- The document of the first constraints is where the whole document starts. -/
theorem document_isPrefix (b : Backend) (cs ds : List Constraint) :
    b.document cs <+: b.document (cs ++ ds) := by
  induction ds using List.reverseRecOn with
  | nil => simp
  | append_singleton ds d ih =>
    rw [← List.append_assoc, document_append]
    exact ih.trans (List.prefix_append _ _)

@[simp] theorem supported_nil (b : Backend) : b.supported [] = [] := rfl

@[simp] theorem supported_append (b : Backend) (cs ds : List Constraint) :
    b.supported (cs ++ ds) = b.supported cs ++ b.supported ds :=
  List.filter_append ..

theorem supported_cons_of_supports {c : Constraint} (h : b.supports c.kind = true)
    (cs : List Constraint) : b.supported (c :: cs) = c :: b.supported cs :=
  List.filter_cons_of_pos h

theorem supported_cons_of_not_supports {c : Constraint} (h : b.supports c.kind = false)
    (cs : List Constraint) : b.supported (c :: cs) = b.supported cs :=
  List.filter_cons_of_neg (by simp [h])

namespace IsLawful

variable {c : Constraint}

/-- The block of a supported constraint goes behind what is in the buffer. -/
theorem append_of_supports (hb : b.IsLawful) (h : b.supports c.kind = true) (ordinal : Nat)
    (buffer : Text) :
    b.append ordinal c buffer = (.ok (), buffer ++ b.blockText ordinal c) := by
  obtain ⟨text, -, ht⟩ := hb.appends ordinal h
  rw [blockText, ht, ht, List.nil_append]

theorem blockText_ne_nil (hb : b.IsLawful) (h : b.supports c.kind = true) (ordinal : Nat) :
    b.blockText ordinal c ≠ [] := by
  obtain ⟨text, hn, ht⟩ := hb.appends ordinal h
  rwa [blockText, ht]

end IsLawful

end Backend

/-- A rule has an axiom exactly if its kind has. -/
theorem isSome_axiomOf? (abbreviation : Text) (p : PropertyId) (rule : Rule) :
    (axiomOf? abbreviation p rule).isSome = hasAxiom rule.kind := by
  cases rule with
  | type _ membership => cases membership <;> rfl
  | valueType _ membership => cases membership <;> rfl
  | _ => rfl

theorem supports_functional (settings : RenderSettings) (c : Constraint) :
    (functional settings).supports c.kind =
      (axiomOf? settings.abbreviation c.property c.rule).isSome :=
  (isSome_axiomOf? ..).symm

/-- The axiom and the line break behind it are appended one after the other. -/
theorem append_functional_of_axiomOf? {settings : RenderSettings} {c : Constraint} {t : Term}
    (h : axiomOf? settings.abbreviation c.property c.rule = some t) (ordinal : Nat)
    (buffer : Text) :
    (functional settings).append ordinal c buffer = (.ok (), buffer ++ (t.text ++ ['\n'])) := by
  simp [functional, h]

theorem isLawful_functional (settings : RenderSettings) : (functional settings).IsLawful where
  appends ordinal c h := by
    rw [supports_functional, Option.isSome_iff_exists] at h
    obtain ⟨t, ht⟩ := h
    exact ⟨t.text ++ ['\n'], by simp, append_functional_of_axiomOf? ht ordinal⟩
  refuses _ c h _ := by
    rw [supports_functional, Option.isSome_eq_false_iff, Option.isNone_iff_eq_none] at h
    simp [functional, h]

/-- The statements of a constraint about the blank node with its ordinal. -/
def groupOf (settings : RenderSettings) (ordinal : Nat) (c : Constraint) : List Statement :=
  attachment settings ordinal c.property :: typing settings ordinal c.kind ::
    (entriesOf settings c.rule).map (entryStatement settings ordinal)

theorem foldl_push_line (statementOf : Text × Node → Statement) (es : List (Text × Node))
    (buffer : Text) : es.foldl (fun buffer e => buffer ++ (statementOf e).line) buffer =
      buffer ++ (es.map statementOf).flatMap Statement.line := by
  induction es generalizing buffer with
  | nil => simp
  | cons e es ih =>
    rw [List.foldl_cons, ih, List.append_assoc, List.map_cons, List.flatMap_cons]

/-- The pushes of a constraint come to the lines of its statements. -/
theorem append_triples (settings : RenderSettings) (ordinal : Nat) (c : Constraint)
    (buffer : Text) : (triples settings).append ordinal c buffer =
      (.ok (), buffer ++ (groupOf settings ordinal c).flatMap Statement.line) := by
  have hpushes : (triples settings).append ordinal c buffer =
      (.ok (), (entriesOf settings c.rule).foldl
        (fun buffer e => buffer ++ (entryStatement settings ordinal e).line)
        (buffer ++ (attachment settings ordinal c.property).line ++
          (typing settings ordinal c.kind).line)) := rfl
  rw [hpushes, foldl_push_line, groupOf, List.flatMap_cons, List.flatMap_cons, List.append_assoc,
    List.append_assoc]

theorem blockText_triples (settings : RenderSettings) (ordinal : Nat) (c : Constraint) :
    (triples settings).blockText ordinal c =
      (groupOf settings ordinal c).flatMap Statement.line := by
  rw [Backend.blockText, append_triples, List.nil_append]

theorem isLawful_triples (settings : RenderSettings) : (triples settings).IsLawful where
  appends ordinal c _ :=
    ⟨_, by simp [groupOf, Statement.line], append_triples settings ordinal c⟩
  refuses _ _ h := by cases h

/-- Either backend is lawful under all settings. -/
theorem isLawful_of_eq {settings : RenderSettings} {b : Backend}
    (h : b = functional settings ∨ b = triples settings) : b.IsLawful := by
  rcases h with rfl | rfl
  · exact isLawful_functional settings
  · exact isLawful_triples settings

/-- Axioms have no numbers, so the ordinal is not seen in them. -/
theorem blockText_functional_congr (settings : RenderSettings) (c : Constraint) (i j : Nat) :
    (functional settings).blockText i c = (functional settings).blockText j c :=
  rfl

/-- A constraint is appended exactly if its kind is supported. What is appended is never empty and
is the same behind every buffer, and in functional syntax under every ordinal. A constraint that is
not appended is refused for its kind in the name of the backend, and the buffer stays as it is. -/
theorem append_agrees_with_supports {settings : RenderSettings} {b : Backend}
    (h : b = functional settings ∨ b = triples settings) (c : Constraint) :
    (∀ ordinal buffer, (b.append ordinal c buffer).1 = .ok () ↔ b.supports c.kind = true) ∧
      (b.supports c.kind = true → ∃ text : Nat → Text,
        (∀ ordinal, text ordinal ≠ []) ∧
        (∀ ordinal buffer, b.append ordinal c buffer = (.ok (), buffer ++ text ordinal)) ∧
        (b = functional settings → ∀ i j, text i = text j)) ∧
      (b.supports c.kind = false → ∀ ordinal buffer,
        b.append ordinal c buffer = (.error ⟨c.kind, b.name⟩, buffer)) := by
  have hb := isLawful_of_eq h
  refine ⟨fun ordinal buffer => ?_, fun hc => ?_, fun hc ordinal => hb.refuses ordinal hc⟩
  · cases hc : b.supports c.kind with
    | true => simp [hb.append_of_supports hc]
    | false => simp [hb.refuses ordinal hc]
  · refine ⟨fun ordinal => b.blockText ordinal c, hb.blockText_ne_nil hc,
      hb.append_of_supports hc, ?_⟩
    rintro rfl i j
    exact blockText_functional_congr settings c i j

/-- Behind a buffer that ends within a line, one backend refuses a constraint and the other appends
it. -/
theorem append_agrees_with_supports_qualifiers :
    let settings := RenderSettings.default
    let c : Constraint := ⟨.instanceOf, .qualifiers []⟩
    let buffer : Text := "Prefix("
    (functional settings).append 3 c buffer = (.error ⟨.qualifiers, "functional"⟩, buffer) ∧
      ∃ text ≠ [], (triples settings).append 3 c buffer = (.ok (), buffer ++ text) := by
  intro settings c buffer
  obtain ⟨-, -, hrefused⟩ := @append_agrees_with_supports settings _ (.inl rfl) c
  obtain ⟨-, happended, -⟩ := @append_agrees_with_supports settings _ (.inr rfl) c
  obtain ⟨text, hn, ht, -⟩ := happended rfl
  exact ⟨hrefused rfl 3 buffer, text 3, hn 3, ht 3 buffer⟩

end WikiAxioms.Output
