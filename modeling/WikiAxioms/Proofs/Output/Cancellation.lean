import WikiAxioms.Proofs.Catalog.Standard
import WikiAxioms.Proofs.Output.Run

/-!
# Lists that are cancelled

A list of constraints is written up to the first turn at which the flag is found raised, wherever
that is and whoever raised it. What is left behind, in the sink as in the summary, is what the
constraints before that turn leave behind when they are submitted one by one: the summary counts
the written ones, and the others by kind.
-/

namespace WikiAxioms.Output

namespace Backend

/-- The kinds of the constraints that a backend has no form for, each as often as it occurs. -/
def refused (b : Backend) (cs : List Constraint) : List Kind :=
  (cs.map Constraint.kind).filter fun kind => !b.supports kind

/-- What constraints add to the output behind `done` others. -/
def pieces (b : Backend) (done : Nat) (cs : List Constraint) : Text :=
  (cs.mapIdx fun i c => b.piece (done + i) c).flatten

theorem pieces_append (b : Backend) (done : Nat) (cs : List Constraint) (c : Constraint) :
    b.pieces done (cs ++ [c]) = b.pieces done cs ++ b.piece (done + cs.length) c := by
  simp [pieces, List.mapIdx_concat]

/-- Constraints make a document longer by their pieces. -/
theorem document_append_list (b : Backend) (cs ds : List Constraint) :
    b.document (cs ++ ds) = b.document cs ++ b.pieces cs.length ds := by
  induction ds using List.reverseRecOn with
  | nil => simp [pieces]
  | append_singleton ds d ih =>
    rw [← List.append_assoc, document_append, ih, pieces_append, List.length_append,
      List.append_assoc]

@[simp] theorem refused_append (b : Backend) (cs ds : List Constraint) :
    b.refused (cs ++ ds) = b.refused cs ++ b.refused ds := by
  rw [refused, List.map_append, List.filter_append]
  rfl

theorem refused_singleton (b : Backend) (c : Constraint) :
    b.refused [c] = if b.supports c.kind then [] else [c.kind] := by
  cases h : b.supports c.kind <;> simp [refused, h]

theorem supported_singleton (b : Backend) (c : Constraint) :
    b.supported [c] = if b.supports c.kind then [c] else [] := by
  cases h : b.supports c.kind <;> simp [supported, h]

/-- Every constraint is either supported or refused. -/
theorem length_supported_add_length_refused (b : Backend) (cs : List Constraint) :
    (b.supported cs).length + (b.refused cs).length = cs.length := by
  induction cs using List.reverseRecOn with
  | nil => rfl
  | append_singleton cs c ih =>
    rw [supported_append, refused_append, supported_singleton, refused_singleton]
    cases b.supports c.kind <;> simp <;> omega

end Backend

namespace Summary

/-- The entry of a kind in a tally; a kind that does not occur has none. -/
def counted? (kinds : List Kind) (k : Kind) : Option (Kind × Nat) :=
  if kinds.count k = 0 then none else some (k, kinds.count k)

/-- The kinds that occur, each with the number of times it does, in the order of kinds. -/
def tally (kinds : List Kind) : List (Kind × Nat) := Kind.all.filterMap (counted? kinds)

/-- The summary says how many constraints were written, and how many of each kind were refused. -/
structure Accounts (b : Backend) (cs : List Constraint) (s : Summary) : Prop where
  rendered : s.rendered = (b.supported cs).length
  unsupported : s.unsupported = tally (b.refused cs)

theorem counted?_append_self (kinds : List Kind) (k : Kind) :
    counted? (kinds ++ [k]) k = some (k, kinds.count k + 1) := by
  simp [counted?]

theorem counted?_append_of_ne {kind k : Kind} (h : kind ≠ k) (kinds : List Kind) :
    counted? (kinds ++ [kind]) k = counted? kinds k := by
  simp [counted?, List.count_append, h]

theorem fst_of_counted?_eq_some {kinds : List Kind} {k : Kind} {e : Kind × Nat}
    (h : counted? kinds k = some e) : e.1 = k := by
  rw [counted?] at h
  split at h
  · cases h
  · exact (Option.some.inj h) ▸ rfl

/-- A kind that comes before all others is put in front of them. -/
theorem countKind_of_forall_lt {kind : Kind} {counts : List (Kind × Nat)}
    (h : ∀ e ∈ counts, kind.rank < e.1.rank) : countKind kind counts = (kind, 1) :: counts := by
  cases counts with
  | nil => rfl
  | cons e counts =>
    have he := h e (by simp)
    have hne : e.1 ≠ kind := by
      rintro rfl
      exact Nat.lt_irrefl _ he
    rw [countKind, if_neg hne, if_pos he]

/-- Among kinds in their order, one more of a kind is counted where the kind stands. -/
theorem countKind_filterMap {kind : Kind} {order : List Kind}
    (ho : order.Pairwise fun k l => k.rank < l.rank) (hk : kind ∈ order) (kinds : List Kind) :
    countKind kind (order.filterMap (counted? kinds)) =
      order.filterMap (counted? (kinds ++ [kind])) := by
  induction order with
  | nil => cases hk
  | cons k order ih =>
    rw [List.pairwise_cons] at ho
    rw [List.filterMap_cons, List.filterMap_cons]
    by_cases h : k = kind
    · subst h
      -- the kinds behind it are counted as before
      have hrest :
          order.filterMap (counted? (kinds ++ [k])) = order.filterMap (counted? kinds) := by
        refine List.filterMap_congr fun l hl => counted?_append_of_ne ?_ kinds
        rintro rfl
        exact Nat.lt_irrefl _ (ho.1 _ hl)
      rw [counted?_append_self, hrest]
      by_cases hc : kinds.count k = 0
      · have hlt : ∀ e ∈ order.filterMap (counted? kinds), k.rank < e.1.rank := by
          intro e he
          obtain ⟨l, hl, hle⟩ := List.mem_filterMap.mp he
          exact fst_of_counted?_eq_some hle ▸ ho.1 l hl
        simp only [counted?, hc, if_true]
        exact countKind_of_forall_lt hlt
      · simp [counted?, hc, countKind]
    · have hm : kind ∈ order := by simpa [Ne.symm h] using hk
      have hlt : ¬ kind.rank < k.rank := Nat.lt_asymm (ho.1 kind hm)
      rw [counted?_append_of_ne (Ne.symm h), ← ih ho.2 hm]
      by_cases hc : kinds.count k = 0
      · simp [counted?, hc]
      · simp [counted?, hc, countKind, h, hlt]

theorem pairwise_rank_all : Kind.all.Pairwise fun k l => k.rank < l.rank := by decide

/-- Counting one more of a kind yields the tally with one more of it. -/
theorem countKind_tally (kind : Kind) (kinds : List Kind) :
    countKind kind (tally kinds) = tally (kinds ++ [kind]) :=
  countKind_filterMap pairwise_rank_all (Catalog.mem_all kind) kinds

theorem total_countKind (kind : Kind) (counts : List (Kind × Nat)) :
    total ((countKind kind counts).map Prod.snd) = total (counts.map Prod.snd) + 1 := by
  induction counts with
  | nil => rfl
  | cons e counts ih =>
    rw [countKind]
    split
    · simp only [List.map_cons, total_cons]
      omega
    · split
      · simp only [List.map_cons, total_cons]
        omega
      · simp only [List.map_cons, total_cons, ih]
        omega

theorem total_tally (kinds : List Kind) : total ((tally kinds).map Prod.snd) = kinds.length := by
  induction kinds using List.reverseRecOn with
  | nil => rfl
  | append_singleton kinds kind ih =>
    rw [← countKind_tally, total_countKind, ih, List.length_append]
    rfl

namespace Accounts

variable {b : Backend} {cs : List Constraint} {c : Constraint} {s : Summary}

theorem empty (b : Backend) : Accounts b [] .empty where
  rendered := rfl
  unsupported := rfl

theorem of_supports (h : Accounts b cs s) (hc : b.supports c.kind = true) :
    Accounts b (cs ++ [c]) { s with rendered := s.rendered + 1 } where
  rendered := by
    rw [h.rendered, Backend.supported_append, Backend.supported_cons_of_supports hc,
      List.length_append]
    rfl
  unsupported := by simp [h.unsupported, Backend.refused_singleton, hc]

theorem of_not_supports (h : Accounts b cs s) (hc : b.supports c.kind = false) :
    Accounts b (cs ++ [c]) { s with unsupported := countKind c.kind s.unsupported } where
  rendered := by
    rw [h.rendered, Backend.supported_append, Backend.supported_cons_of_not_supports hc,
      Backend.supported_nil, List.append_nil]
  unsupported := by simp [h.unsupported, Backend.refused_singleton, hc, countKind_tally]

/-- Every constraint is accounted for. -/
theorem rendered_add_skipped (h : Accounts b cs s) : s.rendered + s.skipped = cs.length := by
  rw [skipped, h.rendered, h.unsupported, total_tally, b.length_supported_add_length_refused]

end Accounts

end Summary

namespace Writer

/-- The writer after constraints were submitted one by one, whatever became of each. -/
def submit (w : Writer) : List Constraint → Writer
  | [] => w
  | c :: cs => (w.write c).2.submit cs

/-- The first turn before which the flag is found raised, the number of turns if there is none. -/
def stopTurn (raised : Nat → Writer → Bool) (w : Writer) (cs : List Constraint) : Nat :=
  (List.range cs.length).findIdx fun turn => raised turn (w.submit (cs.take turn))

/-- A writer that has been called any number of times, by anyone who may have cancelled any list. -/
inductive IsInUse (b : Backend) (s : Sink) : Writer → Prop
  | new : IsInUse b s (new b s)
  | render {w : Writer} (c? : Option Constraint) : IsInUse b s w → IsInUse b s (w.render c?).2
  | renderAll {w : Writer} (raised : Nat → Writer → Bool) (cs : List Constraint) :
    IsInUse b s w → IsInUse b s (w.renderAll raised cs).2

variable {b : Backend} {s : Sink} {cs done : List Constraint} {c : Constraint} {w : Writer}

theorem stopTurn_cons (raised : Nat → Writer → Bool) (w : Writer) (c : Constraint)
    (cs : List Constraint) :
    stopTurn raised w (c :: cs) = if raised 0 w then 0
      else stopTurn (fun turn => raised (turn + 1)) (w.write c).2 cs + 1 := by
  rw [stopTurn, List.length_cons, List.range_succ_eq_map, List.findIdx_cons, List.findIdx_map]
  cases h : raised 0 w
  · simp [submit, h, stopTurn, Function.comp_def]
  · simp [submit, h]

theorem stopTurn_le (raised : Nat → Writer → Bool) (w : Writer) (cs : List Constraint) :
    stopTurn raised w cs ≤ cs.length := by
  have h : stopTurn raised w cs ≤ (List.range cs.length).length := List.findIdx_le_length
  rwa [List.length_range] at h

/-- Over a sink that never closes, a constraint is written or refused as the backend says. -/
theorem Holds.write (hb : b.IsLawful) (hs : s.NeverCloses) (h : w.Holds b s done [])
    (c : Constraint) :
    (w.write c).2.Holds b s (done ++ b.supported [c]) [] ∧ (w.write c).1 =
      if b.supports c.kind then .ok () else .error (.unsupported ⟨c.kind, b.name⟩) := by
  obtain rfl := h.backend
  rcases write_cases hb c with ⟨hc, hw⟩ | ⟨hc, ho, hw⟩ | ⟨-, fault, he, -⟩
  · rw [hw, Backend.supported_cons_of_not_supports hc, if_neg (by simp [hc])]
    exact ⟨by simpa using h.warn c.kind, rfl⟩
  · rw [hw, Backend.supported_cons_of_supports hc, if_pos hc]
    exact ⟨h.counted ho, rfl⟩
  · obtain ⟨call, hcall⟩ := Channel.exists_refuses_of_error he
    exact absurd (h.sink ▸ hcall) (hs call)

/-- Submitting constraints makes the document longer by the supported ones. -/
theorem Holds.submit (hb : b.IsLawful) (hs : s.NeverCloses) (h : w.Holds b s done [])
    (cs : List Constraint) : (w.submit cs).Holds b s (done ++ b.supported cs) [] := by
  induction cs generalizing w done with
  | nil => simpa [Writer.submit] using h
  | cons c cs ih =>
    have hsplit : b.supported (c :: cs) = b.supported [c] ++ b.supported cs :=
      b.supported_append [c] cs
    rw [hsplit, ← List.append_assoc]
    exact ih (h.write hb hs c).1

/-- A list is submitted up to the turn at which the flag is found raised, and accounted for. -/
theorem Holds.renderFrom (hb : b.IsLawful) (hs : s.NeverCloses) (h : w.Holds b s done [])
    (raised : Nat → Writer → Bool) {summary : Summary} {front : List Constraint}
    (ha : summary.Accounts b front) (hc : summary.cancelled = false) (turn : Nat)
    (cs : List Constraint) :
    let m := stopTurn (fun k => raised (turn + k)) w cs
    ∃ summary', Writer.renderFrom raised turn summary w cs = (.ok summary', w.submit (cs.take m)) ∧
      summary'.Accounts b (front ++ cs.take m) ∧ summary'.cancelled = decide (m < cs.length) := by
  induction cs generalizing w done summary front turn with
  | nil => exact ⟨summary, rfl, by simpa using ha, by simp [hc]⟩
  | cons c cs ih =>
    obtain ⟨hnext, hres⟩ := h.write hb hs c
    have hshift : (fun k => raised (turn + (k + 1))) = fun k => raised (turn + 1 + k) := by
      funext k
      rw [Nat.add_right_comm, Nat.add_assoc]
    rw [stopTurn_cons, Nat.add_zero, hshift]
    cases hr : raised turn w with
    | true =>
      refine ⟨{ summary with cancelled := true }, ?_, ?_, by simp⟩
      · rw [Writer.renderFrom, hr]
        rfl
      · exact ⟨by simpa using ha.rendered, by simpa using ha.unsupported⟩
    | false =>
      -- either way the turn is over with one more constraint accounted for
      suffices hnext' : ∃ summary₁, Writer.renderFrom raised turn summary w (c :: cs) =
          Writer.renderFrom raised (turn + 1) summary₁ (w.write c).2 cs ∧
          summary₁.Accounts b (front ++ [c]) ∧ summary₁.cancelled = false by
        obtain ⟨summary₁, he, ha₁, hc₁⟩ := hnext'
        obtain ⟨summary', hr', ha', hc'⟩ := ih hnext ha₁ hc₁ (turn + 1)
        refine ⟨summary', he.trans hr', ?_, ?_⟩
        · simpa using ha'
        · simpa using hc'
      cases hsup : b.supports c.kind with
      | true =>
        rw [hsup, if_pos rfl] at hres
        exact ⟨_, renderFrom_cons_of_ok hr hres summary cs, ha.of_supports hsup, hc⟩
      | false =>
        rw [hsup, if_neg Bool.false_ne_true] at hres
        exact ⟨_, renderFrom_cons_of_unsupported hr hres summary cs, ha.of_not_supports hsup, hc⟩

/-- What holds of a fresh writer holds of every writer in use. -/
theorem IsInUse.exists_holds (hb : b.IsLawful) (hs : s.NeverCloses) (h : IsInUse b s w) :
    ∃ done, w.Holds b s done [] := by
  induction h with
  | new => exact ⟨[], holds_new b s⟩
  | render c? _ ih =>
    obtain ⟨done, h⟩ := ih
    cases c? with
    | none => exact ⟨done, h⟩
    | some c => exact ⟨_, (h.write hb hs c).1⟩
  | @renderAll w raised cs _ ih =>
    obtain ⟨done, h⟩ := ih
    obtain ⟨summary, hr, -⟩ := h.renderFrom hb hs raised (.empty b) rfl 0 cs
    rw [Writer.renderAll, hr]
    exact ⟨_, h.submit hb hs _⟩

/-- Over a sink that never closes, a writer in use submits the constraints of a list up to the first
turn before which the flag is found raised, and no others. The sink gains their pieces, the count
rises by their number, and the summary accounts for each of them. -/
theorem renderAll_eq_submit_take {settings : RenderSettings}
    (hb : b = functional settings ∨ b = triples settings) (hs : s.NeverCloses)
    (hw : IsInUse b s w) (raised : Nat → Writer → Bool) (cs : List Constraint) :
    let m := stopTurn raised w cs
    let front := cs.take m
    let after := w.submit front
    ∃ summary, w.renderAll raised cs = (.ok summary, after) ∧
      after.channel.received =
        w.channel.received ++ (b.pieces w.written (b.supported front)).utf8 ∧
      summary.rendered = (b.supported front).length ∧
      after.written = w.written + summary.rendered ∧
      summary.unsupported = Summary.tally (b.refused front) ∧
      summary.rendered + summary.skipped = m ∧
      (summary.cancelled = true ↔ m < cs.length) := by
  intro m front after
  have hl := isLawful_of_eq hb
  obtain ⟨done, h⟩ := hw.exists_holds hl hs
  obtain ⟨summary, hr, ha, hc⟩ := h.renderFrom hl hs raised (.empty b) rfl 0 cs
  simp only [Nat.zero_add, List.nil_append] at hr ha hc
  have hafter : after.Holds b s (done ++ b.supported front) [] := h.submit hl hs front
  have hfront : front.length = m := by
    rw [List.length_take]
    exact Nat.min_eq_left (stopTurn_le raised w cs)
  refine ⟨summary, hr, ?_, ha.rendered, ?_, ha.unsupported, ?_, ?_⟩
  · rw [hafter.received, h.received, h.written, b.document_append_list, Text.utf8_append]
    simp
  · rw [hafter.written, h.written, List.length_append, ha.rendered]
  · rw [ha.rendered_add_skipped, hfront]
  · rw [hc, decide_eq_true_iff]

/-- A flag that is up before the third constraint and down again before the fourth, over a sink that
takes seven bytes at a time: one constraint is refused and one is written. -/
theorem renderAll_eq_submit_take_lowered :
    let b := functional { RenderSettings.default with prelude := true }
    let s : Sink := ⟨[2], fun _ => .takeAtMost 7, none⟩
    let p := PropertyId.instanceOf
    let w := new b s
    let raised : Nat → Writer → Bool := fun turn _ => turn == 2
    let cs : List Constraint :=
      [⟨p, .existingFile⟩, ⟨p, .symmetric⟩, ⟨p, .multiValue⟩, ⟨p, .singleValue⟩]
    s.NeverCloses ∧ IsInUse b s w ∧ stopTurn raised w cs = 2 ∧
      (w.renderAll raised cs).1 = .ok ⟨1, [(.existingFile, 1)], true⟩ ∧
      (w.renderAll raised cs).2.channel.received = (b.document [⟨p, .symmetric⟩]).utf8 := by
  intro b s p w raised cs
  have hs : s.NeverCloses := fun call h => by cases h.2
  have hm : stopTurn raised w cs = 2 := rfl
  obtain ⟨summary, hr, hg, hn, -, hu, -, hc⟩ :=
    renderAll_eq_submit_take (.inl rfl) hs (.new : IsInUse b s w) raised cs
  rw [hm] at hr hg hn hu hc
  refine ⟨hs, .new, hm, ?_, ?_⟩
  · obtain ⟨rendered, unsupported, cancelled⟩ := summary
    obtain rfl : rendered = 1 := hn
    obtain rfl : unsupported = [(.existingFile, 1)] := hu
    obtain rfl : cancelled = true := hc.mpr (by decide)
    rw [hr]
  · rw [hr]
    exact hg

end Writer

end WikiAxioms.Output
