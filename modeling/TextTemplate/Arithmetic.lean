import TextTemplate.Error

/-!
# Arithmetic of values

The left operand decides the kind of the result, and the right operand is converted to it:
integers wrap around, numbers with a fraction lose it, and what lies out of bounds becomes the
nearer bound. An absent left operand gives the right one, so that a sum can begin with nothing.
Where no number is on a side, `+` appends to a list and joins texts otherwise.
-/

set_option autoImplicit false

namespace TextTemplate

/-- A number of one of the three kinds. -/
inductive Num where
  | int (n : Int64)
  | uint (n : UInt64)
  | float (x : Binary64)
deriving DecidableEq

namespace Num

/-- The number that a value is. -/
def ofValue? : Value → Option Num
  | .int n => some (int n)
  | .uint n => some (uint n)
  | .float x => some (float x)
  | _ => none

/-- The number as a value. -/
def toValue : Num → Value
  | int n => .int n
  | uint n => .uint n
  | float x => .float x

/-- A number as a signed integer. -/
def toInt64 : Num → Int64
  | int n => n
  | uint n => n.toInt64
  | float x => x.toInt64

/-- A number as an unsigned integer. -/
def toUInt64 : Num → UInt64
  | int n => n.toUInt64
  | uint n => n
  | float x => x.toUInt64

/-- A number as a floating-point number. -/
def toFloat : Num → Binary64
  | int n => .ofInt n.toInt
  | uint n => .ofInt n.toNat
  | float x => x

/-- The number `x` in the kind of another. -/
def inKindOf (kind : Num) (x : Binary64) : Num :=
  match kind with
  | int _ => int x.toInt64
  | uint _ => uint x.toUInt64
  | float _ => float x

/-- The sum. -/
def add (a b : Num) : Num :=
  match a with
  | int n => int (n + b.toInt64)
  | uint n => uint (n + b.toUInt64)
  | float x => float (x.add b.toFloat)

/-- The difference. -/
def sub (a b : Num) : Num :=
  match a with
  | int n => int (n - b.toInt64)
  | uint n => uint (n - b.toUInt64)
  | float x => float (x.sub b.toFloat)

/-- The product. -/
def mul (a b : Num) : Num :=
  match a with
  | int n => int (n * b.toInt64)
  | uint n => uint (n * b.toUInt64)
  | float x => float (x.mul b.toFloat)

/-- The quotient, toward zero where it is an integer. -/
def div (a b : Num) : Except EvalError Num :=
  match a with
  | int n => if b.toInt64 = 0 then .error (.of .divisionByZero) else .ok (int (n / b.toInt64))
  | uint n => if b.toUInt64 = 0 then .error (.of .divisionByZero) else .ok (uint (n / b.toUInt64))
  | float x => .ok (float (x.div b.toFloat))

/-- The remainder of integers; there is none of floating-point numbers. -/
def rem? (a b : Num) : Except EvalError (Option Num) :=
  match a with
  | int n => if b.toInt64 = 0 then .error (.of .moduloByZero) else .ok (some (int (n % b.toInt64)))
  | uint n =>
    if b.toUInt64 = 0 then .error (.of .moduloByZero) else .ok (some (uint (n % b.toUInt64)))
  | float _ => .ok none

/-- The power, computed with floating-point numbers. -/
def pow (a b : Num) : Num := a.inKindOf (a.toFloat.pow b.toFloat)

/-- The quotient toward negative infinity, computed with floating-point numbers. -/
def floorDiv (a b : Num) : Num := a.inKindOf (a.toFloat.div b.toFloat).floor

end Num

namespace Operator

/-- Joins the texts of two values. -/
def join (left right : Value) : Value := .text (left.argText ++ right.argText)

/-- `left + right`. -/
def addValues (left right : Value) : Value :=
  match Num.ofValue? left with
  | none =>
    match left with
    | .list items _ => .list (items ++ [right]) none
    | _ => join left right
  | some a =>
    match Num.ofValue? right with
    | none => join left right
    | some b => (a.add b).toValue

/-- An operator between two numbers. -/
def applyNum (op : Operator) (left right : Value) (a b : Num) : Except EvalError Value :=
  match op with
  | add => .ok (a.add b).toValue
  | sub => .ok (a.sub b).toValue
  | mul => .ok (a.mul b).toValue
  | div => (a.div b).map Num.toValue
  | rem => do
    match ← a.rem? b with
    | some n => .ok n.toValue
    | none => .error (.badOperator op left right)
  | pow => .ok (a.pow b).toValue
  | floorDiv => .ok (a.floorDiv b).toValue

/-- `left op right`. -/
def eval (op : Operator) (left right : Value) : Except EvalError Value :=
  if left.isInvalid then .ok right
  else match op with
    | add => .ok (addValues left right)
    | _ =>
      match Num.ofValue? left, Num.ofValue? right with
      | some a, some b => op.applyNum left right a b
      | _, _ => .error (.badOperator op left right)

end Operator

end TextTemplate
