import TextTemplate.Number.Reader

/-!
# Number literals

A number literal keeps its text and is stored under every representation that holds it: as a
signed integer, as an unsigned integer and as a floating-point number. Integers come in decimal,
or in base 16, 8 or 2 after `0x`, `0o` or `0b`; underscores are ignored everywhere.
-/

set_option autoImplicit false

namespace TextTemplate

/-- A number literal. -/
structure Literal where
  text : String
  int : Option Int64
  uint : Option UInt64
  float : Option Binary64
deriving DecidableEq, Repr

namespace Literal

/-- The integer as a signed one, if it fits. -/
def fitSigned (n : Int) : Option Int64 :=
  if -(Nat.pow 2 63 : Nat) ≤ n ∧ n < Nat.pow 2 63 then some (Int64.ofInt n) else none

/-- The integer as an unsigned one, if it fits. -/
def fitUnsigned (n : Int) : Option UInt64 :=
  if 0 ≤ n ∧ n < Nat.pow 2 64 then some (UInt64.ofNat n.toNat) else none

/-- The base that a pair of characters announces. -/
def radixOf (c : Char) : Option Nat :=
  if c = 'x' ∨ c = 'X' then some 16
  else if c = 'o' ∨ c = 'O' then some 8
  else if c = 'b' ∨ c = 'B' then some 2
  else none

/-- The base of unsigned digits, when they announce one, and the digits after that. -/
def splitRadix : List Char → Option Nat × List Char
  | '0' :: c :: cs =>
    match radixOf c with
    | some r => (some r, cs)
    | none => (none, '0' :: c :: cs)
  | cs => (none, cs)

/-- The whole number that a finite floating-point number is, if it is one. -/
def wholeValue? (x : Binary64) : Option Int :=
  if x.isWhole then some (if x.isNegative then -(x.wholePart : Int) else x.wholePart) else none

/-- Reads a literal. A floating-point literal with a whole value counts as an integer too. -/
def parse? (text : String) : Option Literal :=
  let clean := text.toList.filter (· ≠ '_')
  let (negative, unsigned) := Number.splitSign clean
  let (radix?, digits) := splitRadix unsigned
  let magnitude? := (Number.readUnsigned (radix?.getD 10) digits).toOption
  let exactInt := magnitude?.bind fun m => fitSigned (if negative then -(m : Int) else m)
  let exactUint := if negative then none else magnitude?.map UInt64.ofNat
  let float := match exactInt, exactUint with
    | some i, _ => some (Binary64.ofInt i.toInt)
    | none, some u => some (Binary64.ofInt u.toNat)
    | none, none =>
      if radix?.isNone then
        (Number.readFloat? (String.ofList clean)).filter Binary64.isFinite
      else none
  let whole? := float.bind wholeValue?
  let int := exactInt <|> whole?.bind fitSigned
  let uint := exactUint <|> whole?.bind fitUnsigned
  if int.isNone && uint.isNone && float.isNone then none else some ⟨text, int, uint, float⟩

/-- Whether a literal is written as a floating-point number: it has a point or an exponent, and
does not begin with the mark of base 16. -/
def isFloatSyntax (n : Literal) : Bool :=
  !(['0', 'x'].isPrefixOf n.text.toList || ['0', 'X'].isPrefixOf n.text.toList)
    && n.text.toList.any fun c => c = '.' || c = 'e' || c = 'E'

end Literal

end TextTemplate
