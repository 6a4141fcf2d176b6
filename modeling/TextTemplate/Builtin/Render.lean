import TextTemplate.Builtin.Argument
import TextTemplate.Program

/-!
# Functions of the running render

The built-in functions by which a template looks at its render, uses the local data of its
executor, and renders other templates.
-/

set_option autoImplicit false

namespace TextTemplate.RenderFunction

/-- What is known of the render, as an object. -/
def state : Program Results :=
  .view fun view =>
    .newObject (.renderInfo view.templateName view.depth view.data) fun v => .done (.single v)

/-- Arguments as texts, numbered from `i`. -/
def textArgs (func : String) (args : List Value) : Nat → Except EvalError (List String)
  | 0 => .ok []
  | n + 1 => do
    let names ← textArgs func args n
    return names ++ [← Argument.text func args n]

/-- The executor's functions, or those of them that the arguments name, as an object. -/
def funcs (args : List Value) : Program Results :=
  match textArgs "_tpl_funcs" args args.length with
  | .error e => .fail e
  | .ok names =>
    .view fun view =>
      match view.filterFuncs names with
      | .error e => .fail (.new e.message)
      | .ok scope => .newObject (.funcs scope) fun v => .done (.single v)

/-- Registers the functions that arguments numbered from `i` name. A function after a name is the
one to register under it; otherwise the one that the name means is taken. -/
def collect (find? : String → Option FuncValue) (scope : Scope FuncValue) (i : Nat) :
    List Value → Except EvalError (Scope FuncValue)
  | [] => .ok scope
  | .text name :: .func f :: rest =>
    match scope.set name f with
    | .error e => .error (.new e.message)
    | .ok scope => collect find? scope (i + 2) rest
  | .text name :: rest =>
    match find? name with
    | none => .error (.new (Text.quote name ++ " is not a defined function"))
    | some f =>
      match scope.set name f with
      | .error e => .error (.new e.message)
      | .ok scope => collect find? scope (i + 1) rest
  | arg :: _ =>
    .error (.new ("_tpl_data_funcs: invalid function name at " ++ toString i ++ ": "
      ++ arg.argText))

/-- The first argument as data, with the functions that the others name. -/
def dataFuncs (args : List Value) : Program Results :=
  .view fun view =>
    match collect view.findFunc? .empty 1 args.tail with
    | .error e => .fail e
    | .ok scope =>
      .newObject (.dataFuncs (args.headD .invalid) scope) fun v => .done (.single v)

/-- A value as a key of the local data. -/
def localKey (v : Value) : Except EvalError Key :=
  match v.toKey? with
  | some k => .ok k
  | none => .error (.new ("invalid key of type " ++ v.typeName))

/-- Alternating keys and values as entries of the local data. -/
def localEntries : List Value → Except EvalError (List (Key × Value))
  | k :: v :: rest => do
    let k ← localKey k
    return (k, v) :: (← localEntries rest)
  | _ => .ok []

/-- Stores alternating keys and values in the local data, all or none. -/
def set (args : List Value) : Program Results :=
  if args.length % 2 ≠ 0 then .fail (.new "set: expected key/value pairs")
  else match localEntries args with
    | .error e => .fail e
    | .ok entries => .updateStore (·.insertAll entries) (.done .nothing)

/-- The value under a key of the local data, or all of it. -/
def get (args : List Value) : Program Results :=
  match args with
  | [] => .view fun view => .done (.single (.map view.store none))
  | [k] =>
    match localKey k with
    | .error e => .fail e
    | .ok key => .view fun view => .done (.single ((view.store.get? key).getD .invalid))
  | _ => .fail (.new ("get: expected at most 1 key, got " ++ toString args.length))

/-- The name of a template, and the data for it if it is given. -/
def templateArgs (func : String) (args : List Value) : Except EvalError (String × Option Value) :=
  match Argument.text func args 0 with
  | .error e => .error e
  | .ok name =>
    match args with
    | [_] => .ok (name, none)
    | [_, data] => .ok (name, some data)
    | _ => .error (.new (func ++ ": expected a name and at most one data value, got "
        ++ toString args.length ++ " arguments"))

/-- The output of a template as a text. -/
def templateExec (args : List Value) : Program Results :=
  match templateArgs "template_exec" args with
  | .error e => .fail e
  | .ok (name, data) => .render name data (.orFail fun s => .done (.single (.text s)))

/-- A template rendered into the current output. -/
def tplYield (args : List Value) : Program Results :=
  match templateArgs "tpl_yield" args with
  | .error e => .fail e
  | .ok (name, data) => .yield name data (.orFail fun _ => .done .nothing)

/-- Calls the first argument with the others. -/
def call (args : List Value) : Program Results :=
  .callValue (args.headD .invalid) args.tail (.orFail fun v => .done (.single v))

end TextTemplate.RenderFunction
