import Mathlib.Tactic.SplitIfs
import WikiAxioms.Proofs.Text.Bytes

/-!
# Texts as bytes

The UTF-8 form of a text is put together from those of its parts, and determines the text. The byte
of an ASCII character stands for nothing but that character, so what is said about such characters
in a text can be said about its bytes. Texts are in the same order as their bytes.
-/

namespace WikiAxioms.Text

@[simp] theorem utf8_cons (c : Char) (t : Text) :
    utf8 (c :: t) = String.utf8EncodeChar c ++ utf8 t := rfl

theorem utf8_append (a b : Text) : (a ++ b).utf8 = a.utf8 ++ b.utf8 := List.flatMap_append

theorem utf8_injective {a b : Text} (h : a.utf8 = b.utf8) : a = b := by
  have he : List.utf8Encode a = List.utf8Encode b := congrArg List.toByteArray h
  have hd := congrArg ByteArray.utf8Decode? he
  rw [List.utf8Decode?_utf8Encode, List.utf8Decode?_utf8Encode] at hd
  exact congrArg Array.toList (Option.some.inj hd)

theorem utf8_eq_nil_iff {t : Text} : t.utf8 = [] ↔ t = [] :=
  ⟨fun h => utf8_injective h, fun h => h ▸ rfl⟩

theorem length_utf8 (t : Text) : t.utf8.length = t.byteLength := by
  induction t with
  | nil => rfl
  | cons c t ih =>
    rw [utf8_cons, List.length_append, String.length_utf8EncodeChar, ih, byteLength_cons]

section Ascii

variable {d : Char}

theorem utf8EncodeChar_of_ascii (hd : d.toNat ≤ 0x7f) :
    String.utf8EncodeChar d = [UInt8.ofNat d.toNat] :=
  if_pos hd

/-- No other character has the byte of an ASCII character in it. -/
theorem eq_of_mem_utf8EncodeChar (hd : d.toNat ≤ 0x7f) {c : Char}
    (h : UInt8.ofNat d.toNat ∈ String.utf8EncodeChar c) : c = d := by
  have hc : c.val.toNat = d.val.toNat := by
    simp only [String.utf8EncodeChar] at h
    -- whatever the length, every byte of a longer form is above those of ASCII
    split_ifs at h <;>
      simp only [List.mem_cons, List.not_mem_nil, or_false, ← UInt8.toNat_inj,
        UInt8.toNat_ofNat', Char.toNat] at h hd <;> omega
  exact Char.ext (UInt32.toNat_inj.mp hc)

theorem exists_cons_of_utf8_eq_cons (hd : d.toNat ≤ 0x7f) {t : Text} {bytes : List UInt8}
    (h : t.utf8 = UInt8.ofNat d.toNat :: bytes) : ∃ r, t = d :: r ∧ bytes = utf8 r := by
  cases t with
  | nil => cases h
  | cons c r =>
    rw [utf8_cons] at h
    obtain ⟨b, bs, hb⟩ := List.exists_cons_of_ne_nil (String.utf8EncodeChar_ne_nil (c := c))
    have hm : UInt8.ofNat d.toNat ∈ String.utf8EncodeChar c := by
      rw [hb, List.cons_append] at h
      rw [hb, (List.cons.inj h).1]
      exact List.mem_cons_self ..
    obtain rfl := eq_of_mem_utf8EncodeChar hd hm
    rw [utf8EncodeChar_of_ascii hd, List.singleton_append] at h
    exact ⟨r, rfl, (List.cons.inj h).2.symm⟩

end Ascii

/-- The order of two characters shows in their bytes, whatever follows. -/
theorem utf8EncodeChar_append_lt {c d : Char} (h : c < d) (a b : List UInt8) :
    String.utf8EncodeChar c ++ a < String.utf8EncodeChar d ++ b := by
  have hlt : c.val.toNat < d.val.toNat := h
  have hmax : d.val.toNat < 0x110000 := by
    have hv := d.valid
    simp only [UInt32.isValidChar, Nat.isValidChar] at hv
    omega
  have hdigits (n : Nat) : n / 4096 = n / 64 / 64 ∧ n / 262144 = n / 64 / 64 / 64 := by omega
  simp only [String.utf8EncodeChar]
  -- a longer form starts with a larger byte; in forms of one length the digits to base 64 decide
  split_ifs <;>
    simp (disch := omega) only [List.cons_append, List.nil_append, List.cons_lt_cons_iff,
      UInt8.lt_iff_toNat_lt, ← UInt8.toNat_inj, UInt8.toNat_ofNat', Nat.mod_eq_of_lt, hdigits] <;>
    omega

/-- A text that comes before another does so in bytes. -/
theorem utf8_lt_utf8 {a b : Text} (h : compare a b = .lt) : a.utf8 < b.utf8 := by
  induction a generalizing b with
  | nil =>
    cases b with
    | nil => cases h
    | cons d b =>
      obtain ⟨x, bytes, hx⟩ := List.exists_cons_of_ne_nil (String.utf8EncodeChar_ne_nil (c := d))
      rw [utf8_cons, hx]
      exact List.nil_lt_cons x _
  | cons c a ih =>
    cases b with
    | nil => cases h
    | cons d b =>
      rw [List.compare_cons_cons, Ordering.then_eq_lt] at h
      rw [utf8_cons, utf8_cons]
      rcases h with h | ⟨hc, h⟩
      · exact utf8EncodeChar_append_lt (compareOfLessAndEq_eq_lt.mp h) (utf8 a) (utf8 b)
      · obtain rfl := Std.LawfulEqOrd.eq_of_compare hc
        exact List.append_left_lt (ih h)

end WikiAxioms.Text
