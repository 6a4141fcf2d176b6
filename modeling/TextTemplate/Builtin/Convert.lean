import TextTemplate.Arithmetic
import TextTemplate.Builtin.Argument
import TextTemplate.Number.Reader
import TextTemplate.Number.Word

/-!
# Conversion

The built-in functions that turn values into integers, and the two operators that have names.
-/

set_option autoImplicit false

namespace TextTemplate.Convert

/-- The error for a value that a type cannot hold. -/
def cannotConvert (v : Value) (target : String) : EvalError :=
  .new ("can't convert " ++ Text.quote v.typeName ++ " to " ++ target)

/-- The error for a text that is no integer. -/
def cannotParse (s : String) (fault : IntegerFault) : EvalError :=
  .new ("parsing " ++ Text.quote s ++ ": " ++ fault.message)

/-- A value as a signed integer. -/
def toInt (v : Value) : Except EvalError Value :=
  match v.indirect with
  | .int n => .ok (.int n)
  | .uint n =>
    match Number.signed? n with
    | some n => .ok (.int n)
    | none => .error (cannotConvert (.uint n) "int64")
  | .bool b => .ok (.int (if b then 1 else 0))
  | .text s =>
    match Number.readSigned s.toList with
    | .ok n => .ok (.int (Int64.ofInt n))
    | .error fault => .error (cannotParse s fault)
  | w => .error (cannotConvert w "int64")

/-- A value as an unsigned integer. -/
def toUint (v : Value) : Except EvalError Value :=
  match v.indirect with
  | .uint n => .ok (.uint n)
  | .int n =>
    match Number.unsigned? n with
    | some n => .ok (.uint n)
    | none => .error (cannotConvert (.int n) "uint64")
  | .bool b => .ok (.uint (if b then 1 else 0))
  | .text s =>
    match Number.readUnsigned 10 s.toList with
    | .ok n => .ok (.uint (UInt64.ofNat n))
    | .error fault => .error (cannotParse s fault)
  | w => .error (cannotConvert w "uint64")

/-- An operator applied to the first two arguments. -/
def operator (op : Operator) (args : List Value) : Except EvalError Value :=
  op.eval (args.headD .invalid) (args.tail.headD .invalid)

end TextTemplate.Convert
