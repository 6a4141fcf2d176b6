import TextTemplate.Error

/-!
# Arguments of built-in functions

What a built-in function takes an argument for: a text, an integer or the key of a map. All look
through optionals.
-/

set_option autoImplicit false

namespace TextTemplate.Argument

/-- The argument at a place as a text. -/
def text (func : String) (args : List Value) (i : Nat) : Except EvalError String :=
  match args[i]? with
  | none => .error (.new (func ++ ": missing argument " ++ toString (i + 1)))
  | some v =>
    match v.indirect with
    | .text s => .ok s
    | w => .error (.new (func ++ ": argument " ++ toString (i + 1)
        ++ " must be a string, not " ++ w.typeName))

/-- The integer that a value is. -/
def integer? (v : Value) : Option Int :=
  match v.indirect with
  | .int n => some n.toInt
  | .uint n => some n.toNat
  | _ => none

/-- A value as the key of a map. -/
def key (v : Value) : Except EvalError Key :=
  match v.toKey? with
  | some k => .ok k
  | none => .error (.new ("value of type " ++ v.typeName ++ " can't be a map key"))

/-- Arguments as keys. -/
def keys : List Value → Except EvalError (List Key)
  | [] => .ok []
  | v :: rest => do
    let k ← key v
    return k :: (← keys rest)

/-- Alternating keys and values as entries. -/
def pairs : List Value → Except EvalError (List (Key × Value))
  | k :: v :: rest => do
    let k ← key k
    return (k, v) :: (← pairs rest)
  | _ => .ok []

/-- Arguments as a text: a single text as it is, anything else as it is printed. -/
def printed (args : List Value) : String :=
  match args with
  | [.text s] => s
  | _ => Value.printAll args

end TextTemplate.Argument
