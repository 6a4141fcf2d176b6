/-!
# Integers of two kinds

Integers are signed or unsigned, with 64 bits each. An integer of one kind is converted to the other
where that has it (`unsigned?_eq_some_iff`, `signed?_eq_some_iff`). Integers of different kinds are
compared by such a conversion, which gives the order of the numbers that they are
(`compareSigned_eq`, `compareUnsigned_eq`, `equalsUnsigned_iff`).
-/

set_option autoImplicit false

namespace TextTemplate.Number

/-- A signed integer as an unsigned one, unless it is negative. -/
def unsigned? (i : Int64) : Option UInt64 := if 0 ≤ i.toInt then some i.toUInt64 else none

/-- An unsigned integer as a signed one, unless it is too large. -/
def signed? (u : UInt64) : Option Int64 :=
  if u.toNat < Nat.pow 2 63 then some u.toInt64 else none

/-- An integer as the number of a place, unless it is negative or too large for that. -/
def place? (n : Int) : Option Nat :=
  if 0 ≤ n ∧ n < (Nat.pow 2 64 : Nat) then some n.toNat else none

/-- Whether a signed integer equals an unsigned one, which no negative one does. -/
def equalsUnsigned (i : Int64) (u : UInt64) : Bool := (unsigned? i).any fun i => i == u

/-- The order of a signed integer and an unsigned one. A negative one is less. -/
def compareSigned (i : Int64) (u : UInt64) : Ordering :=
  match unsigned? i with
  | some i => compare i.toNat u.toNat
  | none => .lt

/-- The order of an unsigned integer and a signed one. It is greater than a negative one. -/
def compareUnsigned (u : UInt64) (i : Int64) : Ordering :=
  match unsigned? i with
  | some i => compare u.toNat i.toNat
  | none => .gt

/-! ### Conversions -/

variable {i : Int64} {u : UInt64}

/-- A small unsigned integer is the same as a signed one. -/
theorem toInt_toInt64 (h : u.toNat < Nat.pow 2 63) : u.toInt64.toInt = u.toNat := by
  have hlt : u.toNat < 9223372036854775808 := h
  have hsmall : 2 * u.toBitVec.toNat < 2 ^ 64 := by
    rw [UInt64.toNat_toBitVec]
    omega
  rw [← Int64.toInt_toBitVec]
  exact BitVec.toInt_eq_toNat_of_lt hsmall

/-- A signed integer that is not negative is the same as an unsigned one. -/
theorem toNat_toUInt64 (h : 0 ≤ i.toInt) : (i.toUInt64.toNat : Int) = i.toInt := by
  have hcond := BitVec.toInt_eq_toNat_cond i.toBitVec
  have hbits : i.toUInt64.toNat = i.toBitVec.toNat := rfl
  have hlt := i.toBitVec.isLt
  rw [← Int64.toInt_toBitVec] at h ⊢
  omega

/-- A signed integer is converted to the unsigned one that is the same number. -/
theorem unsigned?_eq_some_iff : unsigned? i = some u ↔ i.toInt = u.toNat := by
  rw [unsigned?]
  split
  · next h =>
    rw [Option.some.injEq, ← toNat_toUInt64 h, Int.ofNat_inj, UInt64.toNat_inj]
  · next h =>
    simp only [reduceCtorEq, false_iff]
    omega

/-- A signed integer is not converted just if it is negative. -/
theorem unsigned?_eq_none_iff : unsigned? i = none ↔ i.toInt < 0 := by
  rw [unsigned?]
  split
  · next h => simpa using h
  · next h => simpa using h

/-- An unsigned integer is converted to the signed one that is the same number. -/
theorem signed?_eq_some_iff : signed? u = some i ↔ (u.toNat : Int) = i.toInt := by
  rw [signed?]
  split
  · next h => rw [Option.some.injEq, ← toInt_toInt64 h, Int64.toInt_inj]
  · next h =>
    have hlarge : 9223372036854775808 ≤ u.toNat := Nat.le_of_not_lt h
    have hlt := i.toInt_lt
    simp only [reduceCtorEq, false_iff]
    omega

/-- An unsigned integer is not converted just if it is beyond the signed ones. -/
theorem signed?_eq_none_iff : signed? u = none ↔ Nat.pow 2 63 ≤ u.toNat := by
  rw [signed?]
  split
  · next h => simpa using h
  · next h => simpa using h

/-- An integer is converted to the place that is the same number. -/
theorem place?_eq_some_iff {n : Int} {i : Nat} :
    place? n = some i ↔ n = i ∧ i < Nat.pow 2 64 := by
  rw [place?]
  split
  · next h =>
    rw [Option.some.injEq]
    omega
  · next h =>
    simp only [reduceCtorEq, false_iff]
    omega

/-! ### Comparison -/

/-- Unsigned integers compare as the numbers that they are. -/
theorem compare_toNat (a b : UInt64) :
    compare a.toNat b.toNat = compare (a.toNat : Int) (b.toNat : Int) := by
  simp only [Nat.compare_eq_ite_lt, Int.compare_eq_ite_lt, Int.ofNat_lt]

/-- A signed integer is compared with an unsigned one as the number that it is. -/
theorem compareSigned_eq (i : Int64) (u : UInt64) :
    compareSigned i u = compare i.toInt (u.toNat : Int) := by
  rw [compareSigned]
  cases h : unsigned? i with
  | some a => rw [unsigned?_eq_some_iff.mp h, ← compare_toNat]
  | none =>
    have hneg := unsigned?_eq_none_iff.mp h
    exact (Int.compare_eq_lt.mpr (by omega)).symm

/-- An unsigned integer is compared with a signed one as the number that it is. -/
theorem compareUnsigned_eq (u : UInt64) (i : Int64) :
    compareUnsigned u i = compare (u.toNat : Int) i.toInt := by
  rw [compareUnsigned]
  cases h : unsigned? i with
  | some a => rw [unsigned?_eq_some_iff.mp h, ← compare_toNat]
  | none =>
    have hneg := unsigned?_eq_none_iff.mp h
    exact (Int.compare_eq_gt.mpr (by omega)).symm

/-- Integers of two kinds are equal just if they are the same number. -/
theorem equalsUnsigned_iff : equalsUnsigned i u = true ↔ i.toInt = u.toNat := by
  rw [← unsigned?_eq_some_iff, equalsUnsigned]
  cases unsigned? i with
  | some a => simp
  | none => simp

end TextTemplate.Number
