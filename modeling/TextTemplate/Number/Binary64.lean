/-!
# Binary floating-point numbers of 64 bits

A number is its bit pattern, so that equality is decidable and the sign of a NaN is kept. A
finite pattern stands for `±mantissa · 2 ^ exponent` with natural mantissa and integer exponent;
comparison, truncation and rounding are exact arithmetic on these two. Sums, products, quotients
and powers of numbers are those of the machine.

Main definitions: `Binary64.ofRatio` rounds a quotient of natural numbers to the nearest number
and a tie to the even one; `Binary64.totalOrder` orders all bit patterns.
-/

set_option autoImplicit false

namespace TextTemplate

/-- A floating-point number as its bit pattern. -/
structure Binary64 where
  bits : UInt64
deriving DecidableEq, Repr, Inhabited

namespace Binary64

/-- The bits without the sign. They order the numbers of one sign by size. -/
def magnitude (x : Binary64) : Nat := x.bits.toNat % Nat.pow 2 63

/-- Whether the sign bit is set. -/
def isNegative (x : Binary64) : Bool := Nat.pow 2 63 ≤ x.bits.toNat

/-- The magnitude of the infinities. -/
def infiniteMagnitude : Nat := 0x7FF * Nat.pow 2 52

/-- The pattern with the given sign and magnitude. -/
def ofMagnitude (negative : Bool) (m : Nat) : Binary64 :=
  ⟨UInt64.ofNat (if negative then Nat.pow 2 63 + m else m)⟩

/-- Positive zero. -/
def zero : Binary64 := ⟨0⟩

/-- The infinity of the given sign. -/
def infinity (negative : Bool) : Binary64 := ofMagnitude negative infiniteMagnitude

/-- The NaN that text denotes. -/
def nan : Binary64 := ofMagnitude false (infiniteMagnitude + Nat.pow 2 51)

/-- The NaN that an invalid operation on numbers produces. -/
def invalidResult : Binary64 := ofMagnitude true (infiniteMagnitude + Nat.pow 2 51)

/-- Whether the pattern is no number. -/
def isNaN (x : Binary64) : Bool := infiniteMagnitude < x.magnitude

/-- Whether the pattern is an infinity. -/
def isInfinite (x : Binary64) : Bool := x.magnitude == infiniteMagnitude

/-- Whether the pattern is a finite number. -/
def isFinite (x : Binary64) : Bool := x.magnitude < infiniteMagnitude

/-- Whether the number is a zero of either sign. -/
def isZero (x : Binary64) : Bool := x.magnitude == 0

/-- The same pattern without sign. -/
def abs (x : Binary64) : Binary64 := ofMagnitude false x.magnitude

/-- The field of the exponent. -/
def exponentField (x : Binary64) : Nat := x.magnitude / Nat.pow 2 52

/-- The mantissa of a finite number. -/
def mantissa (x : Binary64) : Nat :=
  if x.exponentField = 0 then x.magnitude else Nat.pow 2 52 + x.magnitude % Nat.pow 2 52

/-- The exponent of a finite number. -/
def exponent (x : Binary64) : Int :=
  if x.exponentField = 0 then -1074 else x.exponentField - 1075

/-! ## Order -/

/-- The order of bit patterns as the order of integers: from the NaNs with a sign through the
numbers to the NaNs without one, the negative zero before the positive. -/
def rank (x : Binary64) : Int :=
  if x.isNegative then -(x.magnitude : Int) - 1 else x.magnitude

/-- The total order of bit patterns. -/
def totalOrder (x y : Binary64) : Ordering := compare x.rank y.rank

/-- The order of numbers as the order of integers; the two zeros are one. -/
def numericRank (x : Binary64) : Int :=
  if x.isNegative then -(x.magnitude : Int) else x.magnitude

/-- Equality of numbers; a NaN equals nothing. -/
def numEq (x y : Binary64) : Bool := !x.isNaN && !y.isNaN && x.numericRank == y.numericRank

/-- Order of numbers; a NaN is less than nothing. -/
def numLt (x y : Binary64) : Bool := !x.isNaN && !y.isNaN && decide (x.numericRank < y.numericRank)

/-- The comparison of numbers, undefined where one is a NaN. -/
def numCompare? (x y : Binary64) : Option Ordering :=
  if x.isNaN || y.isNaN then none else some (compare x.numericRank y.numericRank)

/-! ## Rounding -/

/-- The quotient rounded to the nearest natural number, a tie to the even one. -/
def roundDiv (num den : Nat) : Nat :=
  let q := num / den
  let r := num % den
  if 2 * r < den then q
  else if den < 2 * r then q + 1
  else q + q % 2

/-- `n · 2 ^ e` for a natural `e`, and the two sides of the quotient otherwise. -/
def scale (num den : Nat) (e : Int) : Nat × Nat :=
  match e with
  | .ofNat k => (num, den * Nat.pow 2 k)
  | .negSucc k => (num * Nat.pow 2 (k + 1), den)

/-- The magnitude of `m · 2 ^ e` for a mantissa of at most 53 bits; a mantissa below `2 ^ 52`
comes with the least exponent. -/
def packMagnitude (m : Nat) (e : Int) : Nat :=
  if m < Nat.pow 2 52 then m
  else min infiniteMagnitude ((e + 1075).toNat * Nat.pow 2 52 + (m - Nat.pow 2 52))

/-- The number nearest to `num / den`, where `den` is positive. -/
def ofRatio (negative : Bool) (num den : Nat) : Binary64 :=
  if num = 0 then ofMagnitude negative 0
  else
    let e : Int := max (-1074) ((num.log2 : Int) - den.log2 - 53)
    let unit := scale num den e
    let e := if Nat.pow 2 53 ≤ unit.1 / unit.2 then e + 1 else e
    let unit := scale num den e
    let m := roundDiv unit.1 unit.2
    ofMagnitude negative
      (if m = Nat.pow 2 53 then packMagnitude (Nat.pow 2 52) (e + 1) else packMagnitude m e)

/-- The number nearest to an integer. -/
def ofInt (n : Int) : Binary64 := ofRatio (n < 0) n.natAbs 1

/-- The number nearest to `m · 10 ^ e`. Exponents far outside the range of the format are
decided without computing the power. -/
def ofDecimal (negative : Bool) (m : Nat) (e : Int) : Binary64 :=
  if m = 0 then ofMagnitude negative 0
  else if 400 < e + (3 * m.log2 / 10 : Nat) then infinity negative
  else if e + m.log2 < -400 then ofMagnitude negative 0
  else match e with
    | .ofNat k => ofRatio negative (m * Nat.pow 10 k) 1
    | .negSucc k => ofRatio negative m (Nat.pow 10 (k + 1))

/-! ## Integers -/

/-- The absolute value of a finite number without its fraction. -/
def wholePart (x : Binary64) : Nat :=
  match x.exponent with
  | .ofNat k => x.mantissa * Nat.pow 2 k
  | .negSucc k => x.mantissa / Nat.pow 2 (k + 1)

/-- Whether a finite number has no fraction. -/
def isWhole (x : Binary64) : Bool :=
  x.isFinite && match x.exponent with
    | .ofNat _ => true
    | .negSucc k => x.mantissa % Nat.pow 2 (k + 1) == 0

/-- A number without its fraction, moved to the nearer bound where it lies outside of them; a
NaN counts as zero. -/
def clamp (lo hi : Int) (x : Binary64) : Int :=
  if x.isNaN then 0
  else if x.isInfinite then (if x.isNegative then lo else hi)
  else max lo (min hi (if x.isNegative then -(x.wholePart : Int) else x.wholePart))

/-- A number as a signed integer of 64 bits. -/
def toInt64 (x : Binary64) : Int64 :=
  Int64.ofInt (x.clamp (-(Nat.pow 2 63 : Nat)) (Nat.pow 2 63 - 1))

/-- A number as an unsigned integer of 64 bits. -/
def toUInt64 (x : Binary64) : UInt64 :=
  UInt64.ofNat (x.clamp 0 (Nat.pow 2 64 - 1)).toNat

/-- The greatest whole number that is not greater. -/
def floor (x : Binary64) : Binary64 :=
  if !x.isFinite || x.isWhole then x
  else if x.isNegative then ofRatio true (x.wholePart + 1) 1
  else ofRatio false x.wholePart 1

/-! ## Arithmetic -/

/-- The machine's number with these bits. -/
def toFloat (x : Binary64) : Float := Float.ofBits x.bits

/-- The outcome of an operation: of NaNs among the operands the first is the result, and an
operation on numbers that has none gives `invalidResult`. -/
def result (x y : Binary64) (z : Float) : Binary64 :=
  if !z.isNaN then ⟨z.toBits⟩
  else if x.isNaN then x
  else if y.isNaN then y
  else invalidResult

/-- Sum. -/
def add (x y : Binary64) : Binary64 := result x y (x.toFloat + y.toFloat)

/-- Difference. -/
def sub (x y : Binary64) : Binary64 := result x y (x.toFloat - y.toFloat)

/-- Product. -/
def mul (x y : Binary64) : Binary64 := result x y (x.toFloat * y.toFloat)

/-- Quotient. -/
def div (x y : Binary64) : Binary64 := result x y (x.toFloat / y.toFloat)

/-- Power. -/
def pow (x y : Binary64) : Binary64 := result x y (Float.pow x.toFloat y.toFloat)

end Binary64

end TextTemplate
