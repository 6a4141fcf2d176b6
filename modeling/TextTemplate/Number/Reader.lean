import TextTemplate.Number.Binary64

/-!
# Reading numbers

Integers are read in a base, with an optional sign and within bounds; the first fault in reading
order decides the error. Floating-point numbers are read from decimal notation with an optional
fraction and exponent, or from the names of the infinities and of NaN.
-/

set_option autoImplicit false

namespace TextTemplate

/-- Why a text is no integer of the wanted type. -/
inductive IntegerFault where
  | empty
  | invalidDigit
  | tooLarge
  | tooSmall
deriving DecidableEq, Repr

/-- The wording of a fault. -/
def IntegerFault.message : IntegerFault → String
  | .empty => "cannot parse integer from empty string"
  | .invalidDigit => "invalid digit found in string"
  | .tooLarge => "number too large to fit in target type"
  | .tooSmall => "number too small to fit in target type"

namespace Number

/-- The value of a digit in the base `radix`, which is at most 36. -/
def digitValue? (radix : Nat) (c : Char) : Option Nat :=
  let v :=
    if '0' ≤ c ∧ c ≤ '9' then c.toNat - '0'.toNat
    else if 'a' ≤ c ∧ c ≤ 'z' then c.toNat - 'a'.toNat + 10
    else if 'A' ≤ c ∧ c ≤ 'Z' then c.toNat - 'A'.toNat + 10
    else radix
  if v < radix then some v else none

/-- Reads the digits after a number `acc`, whose value may not exceed `limit`. -/
def readDigits (radix limit : Nat) (overflow : IntegerFault) (acc : Nat) :
    List Char → Except IntegerFault Nat
  | [] => .ok acc
  | c :: cs =>
    match digitValue? radix c with
    | none => .error .invalidDigit
    | some d =>
      if limit < acc * radix + d then .error overflow
      else readDigits radix limit overflow (acc * radix + d) cs

/-- Reads at least one digit. -/
def readMagnitude (radix limit : Nat) (overflow : IntegerFault) (cs : List Char) :
    Except IntegerFault Nat :=
  if cs.isEmpty then .error .invalidDigit else readDigits radix limit overflow 0 cs

/-- Reads a natural number below `2 ^ 64`; a plus sign may stand in front. -/
def readUnsigned (radix : Nat) : List Char → Except IntegerFault Nat
  | [] => .error .empty
  | c :: cs => readMagnitude radix (Nat.pow 2 64 - 1) .tooLarge (if c = '+' then cs else c :: cs)

/-- Reads an integer of 64 bits in decimal notation; a sign may stand in front. -/
def readSigned : List Char → Except IntegerFault Int
  | [] => .error .empty
  | c :: cs =>
    if c = '-' then (readMagnitude 10 (Nat.pow 2 63) .tooSmall cs).map fun m => -(m : Int)
    else (readMagnitude 10 (Nat.pow 2 63 - 1) .tooLarge (if c = '+' then cs else c :: cs)).map
      fun m => (m : Int)

/-- The number that a list of decimal digits denotes. -/
def decimalValue (ds : List Char) : Nat :=
  ds.foldl (fun n c => n * 10 + (c.toNat - '0'.toNat)) 0

/-- Splits off a sign: whether it is a minus, and the rest. -/
def splitSign : List Char → Bool × List Char
  | '-' :: cs => (true, cs)
  | '+' :: cs => (false, cs)
  | cs => (false, cs)

/-- Reads an exponent part, which is absent or `e` with a signed number. -/
def readExponent? : List Char → Option Int
  | [] => some 0
  | c :: cs =>
    if c = 'e' ∨ c = 'E' then
      let (negative, ds) := splitSign cs
      if ds.isEmpty || !ds.all Char.isDigit then none
      else some (if negative then -(decimalValue ds : Int) else decimalValue ds)
    else none

/-- Reads a number without sign in decimal notation. -/
def readDecimal? (negative : Bool) (cs : List Char) : Option Binary64 :=
  let whole := cs.takeWhile Char.isDigit
  let rest := cs.dropWhile Char.isDigit
  let (fraction, rest) := match rest with
    | '.' :: r => (r.takeWhile Char.isDigit, r.dropWhile Char.isDigit)
    | r => ([], r)
  if whole.isEmpty && fraction.isEmpty then none
  else (readExponent? rest).map fun e =>
    .ofDecimal negative (decimalValue (whole ++ fraction)) (e - fraction.length)

/-- Reads a floating-point number. -/
def readFloat? (s : String) : Option Binary64 :=
  let (negative, cs) := splitSign s.toList
  let name := String.ofList (cs.map Char.toLower)
  if name = "inf" || name = "infinity" then some (.infinity negative)
  else if name = "nan" then
    some (if negative then .invalidResult else .nan)
  else readDecimal? negative cs

end Number

end TextTemplate
