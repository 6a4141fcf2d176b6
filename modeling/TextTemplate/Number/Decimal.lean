import TextTemplate.Number.Binary64

/-!
# Decimal text of floating-point numbers

A finite number is written with the fewest digits that read back as it, or with a given number
of places. The digits come from exact arithmetic on mantissa and exponent (`shortest`, `places`,
`significant`); `FloatText` then lays them out, and its values say which exponents are written
positionally and what the exponent part looks like.
-/

set_option autoImplicit false

namespace TextTemplate

/-- The positive decimal number `digits · 10 ^ exponent`. -/
structure Decimal where
  digits : Nat
  exponent : Int
deriving DecidableEq, Repr

namespace Decimal

/-- The characters of the digits. -/
def chars (d : Decimal) : List Char := Nat.toDigits 10 d.digits

/-- The exponent of the first digit. -/
def leadingExponent (d : Decimal) : Int := d.exponent + d.chars.length - 1

/-- Divides trailing zeros out of the digits, at most `fuel` of them. -/
def normalize : Nat → Decimal → Decimal
  | 0, d => d
  | fuel + 1, d =>
    if d.digits ≠ 0 ∧ d.digits % 10 = 0 then normalize fuel ⟨d.digits / 10, d.exponent + 1⟩ else d

/-- The number in positional notation. -/
def positional (d : Decimal) : List Char :=
  match d.exponent with
  | .ofNat k => d.chars ++ List.replicate k '0'
  | .negSucc k =>
    let ds := List.replicate (k + 2 - d.chars.length) '0' ++ d.chars
    ds.take (ds.length - (k + 1)) ++ '.' :: ds.drop (ds.length - (k + 1))

/-- The digits with a point after the first. -/
def leadingForm (d : Decimal) : List Char :=
  match d.chars with
  | [] => []
  | [c] => [c]
  | c :: cs => c :: '.' :: cs

end Decimal

namespace Binary64

/-- The sides of the quotient `num / den` after division by `10 ^ p`. -/
def scaleTen (num den : Nat) (p : Int) : Nat × Nat :=
  match p with
  | .ofNat k => (num, den * Nat.pow 10 k)
  | .negSucc k => (num * Nat.pow 10 (k + 1), den)

/-- Whether `10 ^ p ≤ num / den`. -/
def atLeastTen (num den : Nat) (p : Int) : Bool :=
  let s := scaleTen num den p
  s.2 ≤ s.1

/-- The exponent of the first decimal digit of the positive quotient `num / den`. The binary
logarithms of the two sides give it up to one. -/
def firstDigit (num den : Nat) : Int :=
  let guess := ((num.log2 : Int) - den.log2) * 30103 / 100000
  if atLeastTen num den (guess + 1) then guess + 1
  else if atLeastTen num den guess then guess
  else guess - 1

/-- The value of a finite number as a quotient. -/
def toRatio (x : Binary64) : Nat × Nat :=
  match x.exponent with
  | .ofNat k => (x.mantissa * Nat.pow 2 k, 1)
  | .negSucc k => (x.mantissa, Nat.pow 2 (k + 1))

/-- The interval of the reals that round to a number, and the number itself, in quarters of a
unit of its mantissa. Its ends belong to it when the mantissa is even. -/
structure Neighbourhood where
  lower : Nat
  value : Nat
  upper : Nat
  unit : Nat × Nat
  closed : Bool

/-- The neighbourhood of a positive number. Below a power of two the gap is half as wide. -/
def neighbourhood (x : Binary64) : Neighbourhood where
  lower := 4 * x.mantissa - (if x.mantissa = Nat.pow 2 52 ∧ -1074 < x.exponent then 1 else 2)
  value := 4 * x.mantissa
  upper := 4 * x.mantissa + 2
  unit := match x.exponent - 2 with
    | .ofNat k => (Nat.pow 2 k, 1)
    | .negSucc k => (1, Nat.pow 2 (k + 1))
  closed := x.mantissa % 2 = 0

/-- The point of the grid of multiples of `10 ^ p` inside a neighbourhood; of two points the
nearer one, and the greater one when both are as near. -/
def gridPoint? (n : Neighbourhood) (p : Int) : Option Nat :=
  let s := scaleTen n.unit.1 n.unit.2 p
  let inside (c : Nat) : Bool :=
    if n.closed then n.lower * s.1 ≤ c * s.2 && c * s.2 ≤ n.upper * s.1
    else n.lower * s.1 < c * s.2 && c * s.2 < n.upper * s.1
  let c := n.value * s.1 / s.2
  let r := n.value * s.1 % s.2
  if inside c && (2 * r < s.2 || !inside (c + 1)) then some c
  else if inside (c + 1) then some (c + 1)
  else none

/-- The first grid with a point among those of `count` digits and more. -/
def shortestFrom (n : Neighbourhood) (first : Int) : Nat → Nat → Decimal
  | 0, count => ⟨n.value, first - count + 1⟩
  | fuel + 1, count =>
    match gridPoint? n (first - count + 1) with
    | some c => ⟨c, first - count + 1⟩
    | none => shortestFrom n first fuel (count + 1)

/-- The fewest digits that read back as the positive finite number. Seventeen always do. -/
def shortest (x : Binary64) : Decimal :=
  let ratio := x.toRatio
  (shortestFrom x.neighbourhood (firstDigit ratio.1 ratio.2) 17 1).normalize 20

/-- The digits of `count` places after the point; a tie goes to the even digit. A number has no
more than 1074 places. -/
def places (x : Binary64) (count : Nat) : List Char :=
  let exact := min count 1074
  let ratio := x.toRatio
  let ds := Nat.toDigits 10 (roundDiv (ratio.1 * Nat.pow 10 exact) ratio.2)
  let ds := List.replicate (exact + 1 - ds.length) '0' ++ ds
  let whole := ds.take (ds.length - exact)
  if count = 0 then whole
  else whole ++ '.' :: ds.drop (ds.length - exact) ++ List.replicate (count - exact) '0'

/-- The first `count + 1` digits as one number, with the exponent of the first; a tie goes to the
even digit. -/
def leadingDigits (x : Binary64) (count : Nat) : Nat × Int :=
  let ratio := x.toRatio
  let first := if x.isZero then 0 else firstDigit ratio.1 ratio.2
  let s := scaleTen ratio.1 ratio.2 (first - count)
  let q := roundDiv s.1 s.2
  if q = Nat.pow 10 (count + 1) then (Nat.pow 10 count, first + 1) else (q, first)

/-- No number has more digits than this. -/
def digitLimit : Nat := 1100

/-- One digit before the point and `count` after it, with the exponent of the first. -/
def significant (x : Binary64) (count : Nat) : List Char × Int :=
  let exact := min count digitLimit
  let d := x.leadingDigits exact
  let ds := Nat.toDigits 10 d.1
  let ds := ds ++ List.replicate (exact + 1 - ds.length) '0'
  let body := if count = 0 then ds
    else ds.take 1 ++ '.' :: ds.drop 1 ++ List.replicate (count - exact) '0'
  (body, d.2)

/-- The finite number without sign, rounded to `count + 1` digits. -/
def roundDigits (x : Binary64) (count : Nat) : Binary64 :=
  let exact := min count digitLimit
  let d := x.leadingDigits exact
  ofDecimal false d.1 (d.2 - exact)

end Binary64

/-! ## Layout -/

/-- How floating-point numbers are written. -/
structure FloatText where
  /-- The exponents of the first digit that are written positionally. -/
  isPositional : Int → Bool
  /-- The text of an exponent, after the mark `e`. -/
  exponentText : Int → List Char
  /-- What follows a positional number without a point. -/
  wholeSuffix : List Char
  /-- The text of the positive infinity. -/
  infinityText : List Char
  /-- The text of the negative infinity. -/
  negativeInfinityText : List Char

namespace FloatText

/-- An exponent with a sign and at least two digits. -/
def signedExponent (e : Int) : List Char :=
  let ds := Nat.toDigits 10 e.natAbs
  (if e < 0 then '-' else '+') :: (List.replicate (2 - ds.length) '0' ++ ds)

/-- An exponent with a sign only where it is negative. -/
def plainExponent (e : Int) : List Char :=
  (if e < 0 then ['-'] else []) ++ Nat.toDigits 10 e.natAbs

/-- Printed numbers: positional from `0.0001` up to 21 digits. -/
def printed : FloatText where
  isPositional e := -4 ≤ e && e < 21
  exponentText := signedExponent
  wholeSuffix := []
  infinityText := ['+', 'I', 'n', 'f']
  negativeInfinityText := ['-', 'I', 'n', 'f']

/-- Numbers in listings of a value: always positional. -/
def listed : FloatText where
  isPositional _ := true
  exponentText := plainExponent
  wholeSuffix := []
  infinityText := ['i', 'n', 'f']
  negativeInfinityText := ['-', 'i', 'n', 'f']

/-- Numbers in listings of a key: positional from `0.0001` up to 16 digits, and never without a
point or an exponent. -/
def listedKey : FloatText where
  isPositional e := -4 ≤ e && e < 16
  exponentText := plainExponent
  wholeSuffix := ['.', '0']
  infinityText := ['i', 'n', 'f']
  negativeInfinityText := ['-', 'i', 'n', 'f']

/-- The text of a positive finite number. -/
def positiveChars (f : FloatText) (d : Decimal) : List Char :=
  if f.isPositional d.leadingExponent then
    d.positional ++ (if 0 ≤ d.exponent then f.wholeSuffix else [])
  else d.leadingForm ++ 'e' :: f.exponentText d.leadingExponent

/-- The text of a number. -/
def chars (f : FloatText) (x : Binary64) : List Char :=
  if x.isNaN then ['N', 'a', 'N']
  else if x.isInfinite then (if x.isNegative then f.negativeInfinityText else f.infinityText)
  else
    (if x.isNegative then ['-'] else [])
      ++ if x.isZero then '0' :: f.wholeSuffix else f.positiveChars x.shortest

end FloatText

/-- The printed form of a number. -/
def Binary64.print (x : Binary64) : String := String.ofList (FloatText.printed.chars x)

end TextTemplate
