import TextTemplate.Proofs.Emission
import TextTemplate.Text.Utf8

/-!
# Valid bytes

Bytes that are valid UTF-8 stay valid where the white space that they begin with is cut off, since
white space takes up one byte a character and no other character begins with such a byte. So a wrap
collects valid bytes.
-/

set_option autoImplicit false

namespace TextTemplate

/-- Bytes that are valid are read as they are. -/
theorem Text.toUTF8_decodeText {bytes : ByteArray} (h : bytes.IsValidUTF8) :
    (Text.decodeText bytes).toUTF8 = bytes := by
  rw [Text.decodeText, String.fromUTF8?, dif_pos h]
  rfl

/-- A byte above the space is no blank. -/
theorem isBlankByte_of_lt {n : Nat} (h : 32 < n) (hn : n < 256) :
    Text.isBlankByte (UInt8.ofNat n) = false := by
  have hval : (UInt8.ofNat n).toNat = n := Nat.mod_eq_of_lt hn
  rw [← Bool.not_eq_true]
  intro hb
  simp only [Text.isBlankByte, Bool.or_eq_true, beq_iff_eq] at hb
  have hle : (UInt8.ofNat n).toNat ≤ 32 := by
    rcases hb with (((hb | hb) | hb) | hb) | hb <;> rw [hb] <;> decide
  omega

/-- Bytes that begin with no white space are all left where it is cut off. -/
private theorem dropBlank_cons {b : UInt8} {rest : List UInt8} (h : Text.isBlankByte b = false) :
    dropBlank (b :: rest).toByteArray = (b :: rest).toByteArray := by
  apply ByteArray.ext
  rw [dropBlank, List.data_toByteArray, List.dropWhile_cons_of_neg]
  rw [h]
  exact Bool.false_ne_true

/-- A character with content does not begin with white space. -/
private theorem dropBlank_encode {c : Char} (h : hasContent [c].utf8Encode = true) :
    dropBlank [c].utf8Encode = [c].utf8Encode := by
  rw [List.utf8Encode_singleton] at h ⊢
  rw [String.utf8EncodeChar.eq_1] at h ⊢
  split
  · next hone =>
    apply dropBlank_cons
    rw [if_pos hone, hasContent, List.data_toByteArray] at h
    simpa using h
  · split
    · exact dropBlank_cons (isBlankByte_of_lt (by omega) (by omega))
    · split
      · exact dropBlank_cons (isBlankByte_of_lt (by omega) (by omega))
      · exact dropBlank_cons (isBlankByte_of_lt (by omega) (by omega))

private theorem isValidUTF8_dropBlank {bytes : ByteArray} (h : bytes.IsValidUTF8) :
    (dropBlank bytes).IsValidUTF8 := by
  obtain ⟨cs, rfl⟩ := h
  induction cs with
  | nil => exact .intro [] rfl
  | cons c rest ih =>
    rw [List.utf8Encode_cons, dropBlank_append]
    split
    · next hc =>
      rw [dropBlank_encode hc, ← List.utf8Encode_cons]
      exact .intro _ rfl
    · exact ih

/-- What a wrap has collected is text if what it receives is. -/
theorem WrapSink.isValidUTF8_collect {w : WrapSink} {bytes : ByteArray}
    (hw : w.pending.IsValidUTF8) (h : bytes.IsValidUTF8) : (w.collect bytes).IsValidUTF8 := by
  rw [collect]
  split
  · exact hw.append (isValidUTF8_dropBlank h)
  · exact hw.append h

end TextTemplate
