import TextTemplate.Error
import TextTemplate.Resources

/-!
# Bodies of functions

The body of a function is a program: a tree of requests, each with a continuation for every
answer. A plain program (`Plain`) can be run without a template; a program (`Program`) also acts
on the running render. A request that fails answers with the error, and the program decides
whether to pass it on.

A host is known by the programs of its functions and factories.
-/

set_option autoImplicit false

namespace TextTemplate

/-- A computation that needs no running template. -/
inductive Plain (α : Type) where
  | done (a : α)
  | fail (e : EvalError)
  /-- Panics, with or without a message. -/
  | panic (message : Option String)
  /-- Changes the host's own state, and goes on with the new one. -/
  | host (update : Value → Value) (next : Value → Plain α)
  /-- The number of items that wait in a channel. -/
  | queued (channel : Nat) (next : Nat → Plain α)
  /-- Calls a plain function that a context knows by name. -/
  | callNamed (context : Context) (name : String) (args : List Value)
      (next : Except EvalError Value → Plain α)

namespace Plain

/-- The computation of a result that may be an error. -/
def ofExcept {α : Type} : Except EvalError α → Plain α
  | .ok a => done a
  | .error e => fail e

/-- The computation that ends as stated. -/
def ofOutcome {α : Type} : Outcome α → Plain α
  | .ok a => done a
  | .error e => fail e
  | .panic message => panic message

end Plain

/-- What a function can read of the running render. -/
structure View where
  /-- The data that the render started with. -/
  data : Value
  /-- The innermost binding of a name. -/
  binding? : String → Option Value
  /-- The depth of template calls. -/
  depth : Nat
  templateName : String
  /-- The context that factories build for. -/
  context : Context
  /-- The function that a name means in a template. -/
  findFunc? : String → Option FuncValue
  /-- The executor's functions of some names, or all of them. -/
  filterFuncs : List String → Except ScopeError (Scope FuncValue)
  /-- The local data of the executor. -/
  store : Dict Value
  /-- The number of items that wait in a channel. -/
  queued : Nat → Nat

/-- A computation that acts on the running render. -/
inductive Program (α : Type) where
  /-- Ends with a plain computation. -/
  | finish (p : Plain α)
  /-- Runs a plain computation and goes on with its result. -/
  | run (p : Plain Value) (next : Except EvalError Value → Program α)
  /-- Reads the running render. -/
  | view (next : View → Program α)
  /-- Makes an object. -/
  | newObject (o : Object) (next : Value → Program α)
  /-- Takes the first item out of a channel. -/
  | receive (channel : Nat) (next : Option Value → Program α)
  /-- Changes the local data of the executor. -/
  | updateStore (update : Dict Value → Dict Value) (next : Program α)
  /-- Writes text to the current output. -/
  | write (text : String) (next : Except EvalError Unit → Program α)
  /-- Calls a function value with arguments. -/
  | callValue (f : Value) (args : List Value) (next : Except EvalError Value → Program α)
  /-- Runs the body of a callback block, whose output is either written or handed back. -/
  | runBlock (handle : Nat) (dot : Value) (args : List Value) (captured : Bool)
      (next : Except EvalError ByteArray → Program α)
  /-- Renders a template to text. -/
  | render (template : String) (data : Option Value) (next : Except EvalError String → Program α)
  /-- Renders a template into the current output. -/
  | yield (template : String) (data : Option Value) (next : Except EvalError Unit → Program α)

namespace Program

variable {α : Type}

/-- Ends with a result. -/
def done (a : α) : Program α := finish (.done a)

/-- Ends with an error. -/
def fail (e : EvalError) : Program α := finish (.fail e)

/-- Goes on with the value of an answer, or passes its error on. -/
def orFail {β : Type} (next : β → Program α) : Except EvalError β → Program α
  | .ok b => next b
  | .error e => fail e

/-- Writes texts one after the other and goes on after the last. -/
def writeAll (next : Program α) : List String → Program α
  | [] => next
  | s :: rest => write s (orFail fun _ => writeAll next rest)

end Program

/-- The host: the programs of its functions, and what its factories build. A function receives
the context that it was built for, if a factory built it. -/
structure Host where
  plain : Nat → Option Context → List Value → Plain Results
  stateful : Nat → Option Context → List Value → Program Results
  build : Nat → Context → Plain Function
  /-- What a function does, a built-in one too, with a number of arguments that its arity does not
  accept. It is for the caller to rule this out, so it may be anything. -/
  misuse : Function → List Value → Plain Results := fun _ _ => .panic none

end TextTemplate
