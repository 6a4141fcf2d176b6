import TextTemplate.Builtin.Argument

/-!
# Truth and absence

The built-in functions that choose among their arguments by truth or by absence, and the test for
a callable member.
-/

set_option autoImplicit false

namespace TextTemplate.Logic

/-- The first argument with the given truth, or the last one. -/
def firstWithTruth (b : Bool) (args : List Value) : Value :=
  ((args.find? (·.isTruthy == b)).or args.getLast?).getD .invalid

/-- The first false argument, or the last one. -/
def and (args : List Value) : Value := firstWithTruth false args

/-- The first true argument, or the last one. -/
def or (args : List Value) : Value := firstWithTruth true args

/-- The first true argument, or nil. -/
def default (args : List Value) : Value := (args.find? (·.isTruthy)).getD .nil

/-- Whether all arguments are absent. -/
def allNil (args : List Value) : Bool := args.all (·.indirect.isNil)

/-- Whether a value is neither absent nor the empty text nor the integer zero. -/
def isValid (v : Value) : Bool :=
  match v.indirect with
  | .text s => !s.isEmpty
  | .int n => n != 0
  | w => !w.isNil

/-- The first valid argument, or the empty text. -/
def firstValid (args : List Value) : Value := (args.find? isValid).getD (.text "")

/-- Whether a member is a function. -/
def isFunction (v : Option Value) : Bool := v.any (·.asFunc?.isSome)

/-- Whether a value has a method or a function among its fields or entries. -/
def hasMember (v : Value) (name : String) : Bool :=
  match v.indirect with
  | .record r _ => (r.method? name).isSome || isFunction (r.field? name)
  | .object _ o => (o.method? name).isSome || isFunction (o.field? name)
  | .map entries _ => isFunction (entries.get? (.text name))
  | _ => false

/-- Whether the first argument has the member that the second names. -/
def hasMethod (args : List Value) : Except EvalError Value := do
  let name ← Argument.text "has_method" args 1
  return .bool (hasMember (args.headD .invalid) name)

end TextTemplate.Logic
