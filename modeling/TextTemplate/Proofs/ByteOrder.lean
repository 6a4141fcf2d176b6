import TextTemplate.Proofs.Encoding
import Mathlib.Tactic.SplitIfs

/-!
# The order of texts by their bytes

Texts compare by their characters. That is the order of their bytes (`compare_toUTF8`), since the
bytes of a character come before those of a later one, whatever follows them.
-/

set_option autoImplicit false

namespace TextTemplate.Text

private theorem compare_cons_eq_lt {x y : UInt8} {xs ys : List UInt8} :
    compare (x :: xs) (y :: ys) = .lt ↔ x < y ∨ x = y ∧ compare xs ys = .lt := by
  rw [List.compare_cons_cons, Ordering.then_eq_lt, Std.compare_eq_lt, Std.compare_eq_iff_eq]

/-- What comes before two lists does not tell them apart. -/
theorem compare_append_left (before xs ys : List UInt8) :
    compare (before ++ xs) (before ++ ys) = compare xs ys := by
  induction before with
  | nil => rfl
  | cons b before ih =>
    rw [List.cons_append, List.cons_append, List.compare_cons_cons, Std.compare_self]
    exact ih

/-- Bytes compare as their numbers. -/
theorem ofNat_lt_or_eq {m n : Nat} {p : Prop} (hm : m < 256) (hn : n < 256) :
    (UInt8.ofNat m < UInt8.ofNat n ∨ UInt8.ofNat m = UInt8.ofNat n ∧ p) ↔
      m < n ∨ m = n ∧ p := by
  rw [UInt8.ofNat_lt_iff_lt hm hn, ← UInt8.toNat_inj, UInt8.toNat_ofNat_of_lt' hm,
    UInt8.toNat_ofNat_of_lt' hn]

/-- The bytes of a character come before those of a later one. -/
theorem compare_utf8EncodeChar {c d : Char} (h : c < d) (after after' : List UInt8) :
    compare (String.utf8EncodeChar c ++ after) (String.utf8EncodeChar d ++ after') = .lt := by
  have hlt : c.val.toNat < d.val.toNat := h
  have hd : d.val.toNat < 0x110000 := by
    have hvalid := d.valid
    simp only [UInt32.isValidChar, Nat.isValidChar] at hvalid
    omega
  generalize hm : c.val.toNat = m at hlt
  generalize hn : d.val.toNat = n at hlt hd
  -- the bytes that continue a character are its digits to the base 64
  have hdigits (k : Nat) : k / 4096 = k / 64 / 64 ∧ k / 262144 = k / 64 / 64 / 64 := by omega
  simp only [String.utf8EncodeChar, hm, hn, hdigits]
  split_ifs <;>
    simp only [List.cons_append, List.nil_append, compare_cons_eq_lt] <;>
    simp (disch := omega) only [ofNat_lt_or_eq] <;> omega

private theorem compare_flatMap_of_lt {cs ds : List Char} (h : cs < ds) :
    compare (cs.flatMap String.utf8EncodeChar) (ds.flatMap String.utf8EncodeChar) = .lt := by
  induction h with
  | @nil d ds =>
    rw [List.flatMap_cons, List.flatMap_nil]
    cases he : String.utf8EncodeChar d with
    | nil => exact absurd he String.utf8EncodeChar_ne_nil
    | cons x xs => rfl
  | rel hc => exact compare_utf8EncodeChar hc _ _
  | cons _ ih =>
    rw [List.flatMap_cons, List.flatMap_cons, compare_append_left]
    exact ih

/-- The order of two texts is that of their bytes. -/
theorem compare_toUTF8 (s t : String) :
    compare s.toUTF8.toList t.toUTF8.toList = compare s t := by
  have of_lt {s t : String} (h : compare s t = .lt) :
      compare s.toUTF8.toList t.toUTF8.toList = .lt := by
    have hlt : s < t := compareOfLessAndEq_eq_lt.mp h
    rw [toList_toUTF8, toList_toUTF8]
    exact compare_flatMap_of_lt (String.lt_iff.mp hlt)
  cases hc : compare s t with
  | lt => exact of_lt hc
  | eq => rw [Std.compare_eq_iff_eq.mp hc, Std.compare_self]
  | gt => exact Std.OrientedCmp.gt_iff_lt.mpr (of_lt (Std.OrientedCmp.gt_iff_lt.mp hc))

end TextTemplate.Text
