import WikiAxioms.Text.Basic

/-!
# Offsets in bytes

The number of bytes of a text is the sum over its parts, so the part between two offsets is what is
left when the parts in front of it and behind it are taken away.
-/

namespace WikiAxioms.Text

@[simp] theorem byteLength_nil : byteLength [] = 0 := rfl

@[simp] theorem byteLength_cons (c : Char) (t : Text) :
    byteLength (c :: t) = c.utf8Size + byteLength t := rfl

@[simp] theorem byteLength_append (t u : Text) :
    byteLength (t ++ u) = byteLength t + byteLength u := by
  simp [byteLength]

theorem dropBytes?_append (t rest : Text) : dropBytes? (byteLength t) (t ++ rest) = some rest := by
  induction t with
  | nil => cases rest <;> rfl
  | cons c t ih =>
    have hpos := c.utf8Size_pos
    obtain ⟨n, hn⟩ := Nat.exists_eq_add_of_lt (Nat.add_pos_left hpos (byteLength t))
    rw [Nat.zero_add] at hn
    have hsub : n + 1 - c.utf8Size = byteLength t := by omega
    rw [byteLength_cons, hn, List.cons_append, dropBytes?, if_pos (by omega), hsub, ih]

theorem takeBytes?_append (t rest : Text) : takeBytes? (byteLength t) (t ++ rest) = some t := by
  induction t with
  | nil => cases rest <;> rfl
  | cons c t ih =>
    have hpos := c.utf8Size_pos
    obtain ⟨n, hn⟩ := Nat.exists_eq_add_of_lt (Nat.add_pos_left hpos (byteLength t))
    rw [Nat.zero_add] at hn
    have hsub : n + 1 - c.utf8Size = byteLength t := by omega
    rw [byteLength_cons, hn, List.cons_append, takeBytes?, if_pos (by omega), hsub, ih]
    rfl

/-- A text is cut in one way only at an offset. -/
theorem append_inj_of_byteLength {a b c d : Text} (h : a ++ b = c ++ d)
    (hl : byteLength a = byteLength c) : a = c ∧ b = d := by
  have ha : a = c := by
    have ht := takeBytes?_append a b
    rw [h, hl, takeBytes?_append] at ht
    exact (Option.some.inj ht).symm
  exact ⟨ha, List.append_cancel_left (ha ▸ h)⟩

/-- The part between the offsets at which a text starts and ends is the text. -/
theorem slice?_append (front t rest : Text) :
    slice? (front ++ t ++ rest) (byteLength front) (byteLength (front ++ t)) = some t := by
  rw [slice?, byteLength_append, if_pos (Nat.le_add_right _ _), Nat.add_sub_cancel_left,
    List.append_assoc, dropBytes?_append, Option.bind_some, takeBytes?_append]

end WikiAxioms.Text
