import TextTemplate.Proofs.Encoding
import TextTemplate.Syntax.Position

/-!
# Positions of offsets

A position tells the line that an offset lies on and how far behind the beginning of that line it
lies. It does so unless the offset is inside a character and a line feed comes after it
(`Position.locate_tells_iff`): then the last line of the text is taken for that of the offset, and
the column, which would be negative, wraps around.
-/

set_option autoImplicit false

namespace TextTemplate.Position

/-- The bytes of a text. -/
def bytesOf (source : String) : List UInt8 := source.toUTF8.toList

/-- The number of bytes in front of an offset. An offset past the end stands for the end. -/
def placeOf (source : String) (offset : UInt32) : Nat :=
  min offset.toNat (bytesOf source).length

/-- A position tells where an offset lies: on the line after all line feeds in front of the offset,
as many bytes behind the last of them, or behind the beginning of the text if there is none. -/
structure Tells (source : String) (offset : UInt32) (p : Position) : Prop where
  line : p.line = 1 + ((bytesOf source).take (placeOf source offset)).count 10
  column {above rest : List UInt8} :
    (bytesOf source).take (placeOf source offset) = above ++ 10 :: rest → 10 ∉ rest →
      p.column + (above.length + 1) = placeOf source offset
  first : 10 ∉ (bytesOf source).take (placeOf source offset) → p.column = offset.toNat

/-- An offset is inside a character, and a line feed comes after it. -/
def IsInsideAbove (source : String) (offset : UInt32) : Prop :=
  ¬ (⟨placeOf source offset⟩ : String.Pos.Raw).IsValid source ∧
    10 ∈ (bytesOf source).drop (placeOf source offset)

/-- The bytes among which the line feeds are looked for: those in front of the offset, or all where
it is inside a character. -/
def searched (source : String) (offset : UInt32) : List UInt8 :=
  if isBoundary (bytesOf source) (placeOf source offset) then
    (bytesOf source).take (placeOf source offset)
  else bytesOf source

/-- The line that is taken for that of an offset begins behind the offset, so that there is no
column. -/
def Underflows (source : String) (offset : UInt32) : Prop :=
  ∃ above rest, searched source offset = above ++ 10 :: rest ∧ 10 ∉ rest ∧
    placeOf source offset < above.length + 1

variable {source : String} {offset : UInt32} {above rest bytes : List UInt8} {pos : Nat}

private theorem placeOf_le (source : String) (offset : UInt32) :
    placeOf source offset ≤ (bytesOf source).length := Nat.min_le_right ..

/-- The boundaries are the ends of characters. -/
theorem isBoundary_iff (h : pos ≤ (bytesOf source).length) :
    isBoundary (bytesOf source) pos = true ↔ (⟨pos⟩ : String.Pos.Raw).IsValid source := by
  have hlength : (bytesOf source).length = source.utf8ByteSize := Text.length_toUTF8 source
  rw [String.Pos.Raw.isValid_iff_isUTF8FirstByte, isBoundary]
  by_cases hpos : pos < (bytesOf source).length
  · have hmem : (bytesOf source)[pos] ∈ source.toUTF8.toList := List.getElem_mem hpos
    have hget (hp) : source.getUTF8Byte ⟨pos⟩ hp = (bytesOf source)[pos] := by
      simp only [bytesOf, Text.toList_eq]
      rfl
    have hlt : (⟨pos⟩ : String.Pos.Raw) < source.rawEndPos := by
      rwa [String.Pos.Raw.lt_iff, String.byteIdx_rawEndPos, ← hlength]
    have hne : (⟨pos⟩ : String.Pos.Raw) ≠ source.rawEndPos := by
      intro heq
      rw [heq] at hlt
      exact absurd hlt (by simp [String.Pos.Raw.lt_iff])
    rw [List.drop_eq_getElem_cons hpos]
    simp only [Bool.or_eq_true, decide_eq_true_eq, hne, false_or, hlt, exists_true_left, hget,
      Text.isUTF8FirstByte_iff (Text.toNat_lt_of_mem hmem)]
  · have hend : (⟨pos⟩ : String.Pos.Raw) = source.rawEndPos := by
      rw [String.Pos.Raw.ext_iff, String.byteIdx_rawEndPos, ← hlength]
      exact Nat.le_antisymm h (Nat.le_of_not_lt hpos)
    rw [List.drop_eq_nil_of_le (Nat.le_of_not_lt hpos)]
    simp only [decide_eq_true_eq, hend, true_or, h]

/-! ### The last line feed -/

/-- A text with a line feed has a last one. -/
theorem exists_last (h : 10 ∈ bytes) : ∃ above rest, bytes = above ++ 10 :: rest ∧ 10 ∉ rest := by
  obtain ⟨rest, above, hsplit, hrest⟩ := List.eq_append_cons_of_mem (List.mem_reverse.mpr h)
  refine ⟨above.reverse, rest.reverse, ?_, by simpa using hrest⟩
  rw [← List.reverse_reverse bytes, hsplit]
  simp

private theorem afterLastLine?_eq_some (hsplit : bytes = above ++ 10 :: rest) (hrest : 10 ∉ rest) :
    afterLastLine? bytes = some rest.length := by
  have hall : ∀ b ∈ rest.reverse, (b != 10) = true := by
    intro b hb
    simp only [bne_iff_ne, ne_eq]
    rintro rfl
    exact hrest (List.mem_reverse.mp hb)
  have hreverse : bytes.reverse = rest.reverse ++ 10 :: above.reverse := by simp [hsplit]
  have hmem : bytes.contains 10 = true := by simp [hsplit]
  rw [afterLastLine?, if_pos hmem, hreverse, List.takeWhile_append_of_pos hall]
  simp

private theorem afterLastLine?_eq_none (h : 10 ∉ bytes) : afterLastLine? bytes = none := by
  have hmem : ¬ bytes.contains 10 = true := by simpa using h
  rw [afterLastLine?, if_neg hmem]

private theorem locate_eq (source : String) (offset : UInt32) :
    locate source offset =
      { line := 1 + (searched source offset).count 10
        column := match afterLastLine? (searched source offset) with
          | some rest => (columnModulus + placeOf source offset -
              ((searched source offset).length - rest)) % columnModulus
          | none => offset.toNat } := rfl

/-! ### Offsets on the line that is told -/

/-- If no line feed comes after an offset inside a character, then those that are found are in front
of the offset. -/
theorem exists_searched_eq (h : ¬ IsInsideAbove source offset) :
    ∃ more, searched source offset = (bytesOf source).take (placeOf source offset) ++ more ∧
      10 ∉ more := by
  unfold searched
  split
  · exact ⟨[], (List.append_nil _).symm, List.not_mem_nil⟩
  · next hinside =>
    rw [isBoundary_iff (placeOf_le source offset)] at hinside
    exact ⟨_, (List.take_append_drop ..).symm, fun hmem ↦ h ⟨hinside, hmem⟩⟩

section Searched

variable {more : List UInt8}
  (hsearched : searched source offset = (bytesOf source).take (placeOf source offset) ++ more)
  (hmore : 10 ∉ more)

include hsearched hmore

private theorem tells_locate : Tells source offset (locate source offset) := by
  rw [locate_eq, hsearched]
  constructor
  case line =>
    rw [List.count_append, List.count_eq_zero_of_not_mem hmore, Nat.add_zero]
  case column =>
    intro above rest hsplit hrest
    have hlast : 10 ∉ rest ++ more := by simp [hrest, hmore]
    have hlong : (bytesOf source).take (placeOf source offset) ++ more =
        above ++ 10 :: (rest ++ more) := by simp [hsplit]
    have hplace : placeOf source offset = above.length + 1 + rest.length := by
      have hlength := congrArg List.length hsplit
      rw [List.length_take, Nat.min_eq_left (placeOf_le source offset)] at hlength
      simp only [List.length_append, List.length_cons] at hlength
      omega
    have hsmall : placeOf source offset < columnModulus :=
      calc placeOf source offset ≤ offset.toNat := Nat.min_le_left ..
        _ < 2 ^ 32 := offset.toNat_lt
        _ ≤ columnModulus := by decide
    rw [afterLastLine?_eq_some hlong hlast, hlong]
    simp only [List.length_append, List.length_cons]
    have hcolumn : columnModulus + placeOf source offset -
        (above.length + (rest.length + more.length + 1) - (rest.length + more.length)) =
          rest.length + columnModulus := by omega
    rw [hcolumn, Nat.add_mod_right, Nat.mod_eq_of_lt (by omega)]
    omega
  case first =>
    intro hnone
    rw [afterLastLine?_eq_none (by simp [hnone, hmore])]

/-- The line that is told begins in front of the offset. -/
theorem not_underflows : ¬ Underflows source offset := by
  rintro ⟨above, rest, hsplit, -, hlt⟩
  rw [hsearched] at hsplit
  have hfeed : ((bytesOf source).take (placeOf source offset) ++ more)[above.length]? =
      some 10 := by simp [hsplit]
  have hlength : ((bytesOf source).take (placeOf source offset)).length = placeOf source offset :=
    List.length_take_of_le (placeOf_le source offset)
  rw [List.getElem?_append_right (by omega)] at hfeed
  exact hmore (List.mem_of_getElem? hfeed)

end Searched

/-! ### Offsets in front of that line -/

private theorem searched_of_inside (h : IsInsideAbove source offset) :
    searched source offset = bytesOf source := by
  unfold searched
  rw [if_neg]
  rw [isBoundary_iff (placeOf_le source offset)]
  exact h.1

/-- The line feeds after the offset are counted too. -/
theorem not_tells_locate (h : IsInsideAbove source offset) :
    ¬ Tells source offset (locate source offset) := by
  intro htells
  have hline : 1 + (searched source offset).count 10 = _ := htells.line
  rw [searched_of_inside h] at hline
  have hcount : (bytesOf source).count 10 =
      ((bytesOf source).take (placeOf source offset)).count 10 +
        ((bytesOf source).drop (placeOf source offset)).count 10 := by
    rw [← List.count_append, List.take_append_drop]
  have hpos : 0 < ((bytesOf source).drop (placeOf source offset)).count 10 :=
    List.count_pos_iff.mpr h.2
  omega

private theorem underflows (h : IsInsideAbove source offset) : Underflows source offset := by
  obtain ⟨above, rest, hsplit, hrest⟩ := exists_last h.2
  refine ⟨(bytesOf source).take (placeOf source offset) ++ above, rest, ?_, hrest, ?_⟩
  · rw [searched_of_inside h, List.append_assoc, ← hsplit, List.take_append_drop]
  · rw [List.length_append, List.length_take_of_le (placeOf_le source offset)]
    omega

/-- The position that an offset is located at tells where it lies, and its column is computed
without going below zero, unless the offset is inside a character and a line feed comes after it. -/
theorem locate_tells_iff (source : String) (offset : UInt32) :
    (Tells source offset (locate source offset) ↔ ¬ IsInsideAbove source offset) ∧
      (¬ Underflows source offset ↔ ¬ IsInsideAbove source offset) := by
  by_cases hinside : IsInsideAbove source offset
  · have htells := not_tells_locate hinside
    have hunder := underflows hinside
    simp only [htells, hunder, hinside, not_true_eq_false, and_self]
  · obtain ⟨more, hsearched, hmore⟩ := exists_searched_eq hinside
    have htells := tells_locate hsearched hmore
    have hunder := not_underflows hsearched hmore
    simp only [htells, hunder, hinside, not_false_eq_true, and_self]

/-- In front of the second byte of a character on the first line of two, the second one is told,
which begins two bytes behind it. -/
theorem not_tells_inside :
    locate "é\n" 1 = ⟨2, 18446744073709551614⟩ ∧ ¬ Tells "é\n" 1 (locate "é\n" 1) ∧
      Underflows "é\n" 1 := by
  have hbytes : bytesOf "é\n" = [0xC3, 0xA9, 10] := by
    rw [bytesOf, Text.toList_toUTF8]
    decide
  have hplace : placeOf "é\n" 1 = 1 := by
    rw [placeOf, hbytes]
    decide
  have hinside : IsInsideAbove "é\n" 1 := by
    rw [IsInsideAbove, ← isBoundary_iff (placeOf_le ..), hplace, hbytes]
    decide
  refine ⟨?_, not_tells_locate hinside, underflows hinside⟩
  rw [locate_eq, searched_of_inside hinside, hplace, hbytes]
  decide

end TextTemplate.Position
