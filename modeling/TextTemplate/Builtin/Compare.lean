import TextTemplate.Error
import TextTemplate.Number.Word

/-!
# Comparison

Only truth values, numbers and texts compare. Integers of both kinds compare, a signed one being
converted to an unsigned one; any other mix of kinds is an error and not false.
-/

set_option autoImplicit false

namespace TextTemplate.Compare

/-- A value that can be compared. -/
inductive Comparable where
  | bool (b : Bool)
  | int (n : Int64)
  | uint (n : UInt64)
  | float (x : Binary64)
  | text (s : String)

/-- The error for a value that cannot be compared. -/
def invalidComparison : EvalError := .new "invalid type for comparison"

/-- The error for values of kinds that do not compare with each other. -/
def incompatibleComparison : EvalError := .new "incompatible types for comparison"

namespace Comparable

/-- The value as one that can be compared. -/
def ofValue (v : Value) : Except EvalError Comparable :=
  match v.indirect with
  | .bool b => .ok (bool b)
  | .int n => .ok (int n)
  | .uint n => .ok (uint n)
  | .float x => .ok (float x)
  | .text s => .ok (text s)
  | _ => .error invalidComparison

/-- Whether two values are equal. -/
def equal : Comparable → Comparable → Except EvalError Bool
  | bool a, bool b => .ok (a == b)
  | int a, int b => .ok (a == b)
  | uint a, uint b => .ok (a == b)
  | float a, float b => .ok (a.numEq b)
  | text a, text b => .ok (a == b)
  | int i, uint u | uint u, int i => .ok (Number.equalsUnsigned i u)
  | _, _ => .error incompatibleComparison

/-- The order of two values; numbers that are NaN have none. -/
def order : Comparable → Comparable → Except EvalError (Option Ordering)
  | int a, int b => .ok (some (compare a.toInt b.toInt))
  | uint a, uint b => .ok (some (compare a.toNat b.toNat))
  | float a, float b => .ok (a.numCompare? b)
  | text a, text b => .ok (some (compare a b))
  | int i, uint u => .ok (some (Number.compareSigned i u))
  | uint u, int i => .ok (some (Number.compareUnsigned u i))
  | bool _, bool _ => .error invalidComparison
  | _, _ => .error incompatibleComparison

/-- Whether a value equals one of several, which are compared in order until one does. -/
def equalsAny (a : Comparable) : List Value → Except EvalError Bool
  | [] => .ok false
  | v :: rest => do
    if ← a.equal (← ofValue v) then return true else equalsAny a rest

end Comparable

/-- Whether the first argument equals one of the others. -/
def eq (args : List Value) : Except EvalError Value := do
  let first ← Comparable.ofValue (args.headD .invalid)
  if args.length < 2 then .error (.new "missing argument for comparison")
  else return .bool (← first.equalsAny args.tail)

/-- Whether two arguments differ. -/
def ne (args : List Value) : Except EvalError Value := do
  let a ← Comparable.ofValue (args.headD .invalid)
  let b ← Comparable.ofValue (args.tail.headD .invalid)
  return .bool !(← a.equal b)

/-- Whether the order of two arguments satisfies a test. -/
def ordered (test : Ordering → Bool) (args : List Value) : Except EvalError Value := do
  let a ← Comparable.ofValue (args.headD .invalid)
  let b ← Comparable.ofValue (args.tail.headD .invalid)
  return .bool ((← a.order b).any test)

end TextTemplate.Compare
