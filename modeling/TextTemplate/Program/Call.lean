import TextTemplate.Builtin.Table
import TextTemplate.Resources

/-!
# Calls

What a function runs, and how plain computations end. A plain computation is a finite tree, so it
ends unless functions go on calling each other by name. Nothing counts such calls: the bound on how
deep they nest stands for the overflow of the stack.
-/

set_option autoImplicit false

namespace TextTemplate

namespace Function

/-- The program of the body of a function. -/
def body (host : Host) (f : Function) (args : List Value) : Program Results :=
  match f.code with
  | .builtin b => b.stateful (f.bound ++ args)
  | .host id =>
    if f.stateful then host.stateful id f.context (f.bound ++ args)
    else .finish (host.plain id f.context (f.bound ++ args))

/-- The computation of the body of a function that needs no running render. -/
def plainBody (host : Host) (f : Function) (args : List Value) : Plain Results :=
  match f.code with
  | .builtin b => b.plain (f.bound ++ args)
  | .host id => host.plain id f.context (f.bound ++ args)

/-- The program of a call. -/
def program (host : Host) (f : Function) (args : List Value) : Program Results :=
  if f.arity.accepts args.length then f.body host args else .finish (host.misuse f args)

/-- The computation of a call without a running render. -/
def plainProgram (host : Host) (f : Function) (args : List Value) : Plain Results :=
  if f.stateful then .fail .needsRender
  else if f.arity.accepts args.length then f.plainBody host args
  else host.misuse f args

/-- Checks a number of arguments for a function that is called by a name. -/
def checkArity (f : Function) (name : String) (got : Nat) : Except EvalError Unit :=
  if f.arity.accepts got then .ok () else .error (.arityMismatch name f.arity got)

/-! ### Laws -/

variable {host : Host} {f : Function} {args : List Value}

/-- With a number of arguments that it accepts, a function runs its body. -/
theorem program_of_accepts (h : f.arity.accepts args.length = true) :
    f.program host args = f.body host args := if_pos h

/-- So does a function that needs no running render. -/
theorem plainProgram_of_accepts (hs : f.stateful = false)
    (h : f.arity.accepts args.length = true) :
    f.plainProgram host args = f.plainBody host args := by
  rw [plainProgram, hs, h]
  rfl

/-- A number of arguments that passes the check is accepted. -/
theorem accepts_of_checkArity {name : String} {count : Nat} {u : Unit}
    (h : f.checkArity name count = .ok u) : f.arity.accepts count = true := by
  rw [checkArity] at h
  split at h
  · assumption
  · cases h

end Function

/-- The function to call, which a factory builds from a context. -/
def FuncValue.resolve (host : Host) (context : Context) : FuncValue → Plain Function
  | .direct f => .done f
  | .contextBound id => host.build id context

/-- How a computation that uses resources ends, with what it made of them. -/
abbrev Ended (α : Type) := Outcome α × Resources

namespace Ended

variable {α β : Type}

/-- Continues where a computation ended with a value. -/
def andThen (x : Ended α) (f : α → Resources → Ended β) : Ended β :=
  match x with
  | (.ok a, r) => f a r
  | (.error e, r) => (.error e, r)
  | (.panic m, r) => (.panic m, r)

end Ended

/-- How functions are called by name in a context. -/
abbrev NamedCall := Context → String → List Value → Resources → Ended Value

namespace Plain

variable {α : Type}

/-- Runs a computation. -/
def runWith (call : NamedCall) : Plain α → Resources → Ended α
  | done a, r => (.ok a, r)
  | fail e, r => (.error e, r)
  | panic m, r => (.panic m, r)
  | host update next, r =>
    (next (update r.hostState)).runWith call { r with hostState := update r.hostState }
  | queued channel next, r => (next (r.queued channel)).runWith call r
  | callNamed context name args next, r =>
    match call context name args r with
    | (.ok v, r) => (next (.ok v)).runWith call r
    | (.error e, r) => (next (.error e)).runWith call r
    | (.panic m, r) => (.panic m, r)

end Plain

/-- Calls a plain function that a context knows by name. Calls nest at most `limit` deep; the panic
of those beyond it stands for the overflow of the stack. -/
def Context.callWithin (host : Host) : Nat → NamedCall
  | 0, _, _, _, r => (.panic (some "function calls nest too deep"), r)
  | limit + 1, context, name, args, r =>
    match context.funcs.get? name with
    | none => (.error (.of (.undefinedFunction name)), r)
    | some value =>
      ((value.resolve host context).runWith (callWithin host limit) r).andThen fun f r =>
        match f.checkArity name args.length with
        | .error e => (.error e, r)
        | .ok _ =>
          ((f.plainProgram host args).runWith (callWithin host limit) r).andThen fun results r =>
            let (v, r) := r.hold results.toValue
            (.ok v, r)

/-- How deep calls by name may nest: as many as a stack is taken to have room for. -/
def callNesting : Nat := 10000

/-- Calls a plain function that a context knows by name. -/
def Context.call (host : Host) (context : Context) (name : String) (args : List Value)
    (r : Resources) : Ended Value :=
  context.callWithin host callNesting name args r

/-- Runs a computation. -/
def Plain.run {α : Type} (host : Host) (p : Plain α) (r : Resources) : Ended α :=
  p.runWith (Context.callWithin host callNesting) r

end TextTemplate
