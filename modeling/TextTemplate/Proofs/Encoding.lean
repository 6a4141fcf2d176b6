/-!
# Bytes of a text

The bytes of a text are those of its characters, one after the other (`toList_toUTF8`). None is
`0xF8` or above, so that all bytes but those from `0x80` to `0xBF` begin a character
(`isUTF8FirstByte_iff`).
-/

set_option autoImplicit false

namespace TextTemplate.Text

variable {s : String} {b : UInt8}

private theorem toList_loop (bytes : ByteArray) (i : Nat) (read : List UInt8) :
    ByteArray.toList.loop bytes i read = read.reverse ++ bytes.data.toList.drop i := by
  fun_induction ByteArray.toList.loop bytes i read with
  | case1 i read h ih =>
    have hi : i < bytes.data.toList.length := h
    rw [ih, List.drop_eq_getElem_cons hi, List.reverse_cons, List.append_assoc]
    simp only [ByteArray.get!, Array.getElem_toList, List.singleton_append]
    rw [getElem!_pos bytes.data i h]
  | case2 i read h =>
    have hi : bytes.data.toList.length ≤ i := Nat.le_of_not_lt h
    rw [List.drop_eq_nil_of_le hi, List.append_nil]

/-- The list of some bytes is that of their array. -/
theorem toList_eq (bytes : ByteArray) : bytes.toList = bytes.data.toList := by
  rw [ByteArray.toList, toList_loop]
  rfl

/-- The bytes of a text are those of its characters. -/
theorem toList_toUTF8 (s : String) : s.toUTF8.toList = s.toList.flatMap String.utf8EncodeChar := by
  rw [toList_eq, String.toUTF8, ← String.utf8Encode_toList, List.utf8Encode,
    List.data_toByteArray]

/-- A text has as many bytes as its size says. -/
theorem length_toUTF8 (s : String) : s.toUTF8.toList.length = s.utf8ByteSize := by
  rw [toList_eq]
  rfl

/-- No byte of a text is greater than those that begin a character of four bytes. -/
theorem toNat_lt_of_mem (h : b ∈ s.toUTF8.toList) : b.toNat < 0xF8 := by
  rw [toList_toUTF8, List.mem_flatMap] at h
  obtain ⟨c, -, hb⟩ := h
  rw [String.utf8EncodeChar.eq_1] at hb
  split at hb
  · next hone =>
    rw [List.mem_singleton] at hb
    rw [hb, UInt8.toNat_ofNat']
    omega
  · split at hb
    · simp only [List.mem_cons, List.not_mem_nil, or_false] at hb
      obtain rfl | rfl := hb <;> simp only [UInt8.toNat_ofNat'] <;> omega
    · split at hb
      · simp only [List.mem_cons, List.not_mem_nil, or_false] at hb
        obtain rfl | rfl | rfl := hb <;> simp only [UInt8.toNat_ofNat'] <;> omega
      · simp only [List.mem_cons, List.not_mem_nil, or_false] at hb
        obtain rfl | rfl | rfl | rfl := hb <;> simp only [UInt8.toNat_ofNat'] <;> omega

/-- A byte of a text that does not continue a character begins one. -/
theorem isUTF8FirstByte_iff (h : b.toNat < 0xF8) :
    b.IsUTF8FirstByte ↔ b < 0x80 ∨ 0xC0 ≤ b := by
  have hall : ∀ n < 0xF8,
      (UInt8.ofNat n).IsUTF8FirstByte ↔ UInt8.ofNat n < 0x80 ∨ 0xC0 ≤ UInt8.ofNat n := by
    decide +kernel
  have hb := hall b.toNat h
  rwa [UInt8.ofNat_toNat] at hb

end TextTemplate.Text
