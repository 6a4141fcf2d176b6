import TextTemplate.Syntax.Operator
import TextTemplate.Syntax.Span
import TextTemplate.Value.Printer

/-!
# Errors of evaluation

An error is a cause with what is known of its place: the span and site of the node it came from,
and the template calls that it left on its way out. Two causes are signals rather than failures:
`exit` ends a render quietly, and `write` tells that the output took no more. Fatal errors and
errors with a site are passed on as they are.
-/

set_option autoImplicit false

namespace TextTemplate

/-- Why evaluation stopped. -/
inductive Cause where
  | divisionByZero
  | moduloByZero
  /-- An operator between two types it has no meaning for. -/
  | badOperator (op : Operator) (left right : String)
  /-- A literal that fits an unsigned integer only. -/
  | intOverflow (literal : String)
  | undefinedVariable (name : String)
  | undefinedFunction (name : String)
  | undefinedTemplate (name : String)
  | noSuchField (field typeName : String)
  | missingKey (key : String)
  /-- A field of absent data, where missing keys are errors. -/
  | nilData (key : String)
  | nilPointer (field : String)
  | fieldHasArguments (field : String)
  | arityMismatch (name : String) (expected got : Nat) (variadic : Bool)
  | notAFunction (operand : String)
  | callFailed (name cause : String)
  | badTemplateArgs (name : String) (expected got : Nat)
  | depthExceeded (limit : Nat)
  | notIterable (value : String)
  | notTestable (value : String)
  | notPrintable (operand typeName : String)
  | emptyTemplate (name : String)
  | exit
  | write (cause : String)
  | panic (message : String)
  /-- A failure told by its message alone. -/
  | custom (message : String)
deriving DecidableEq

/-- The wording of a cause. -/
def Cause.message : Cause → String
  | divisionByZero => "division by zero"
  | moduloByZero => "modulo by zero"
  | badOperator op left right =>
    "bad operator \"" ++ op.text ++ "\" of types " ++ left ++ " and " ++ right
  | intOverflow literal => literal ++ " overflows int"
  | undefinedVariable name => "undefined variable: " ++ name
  | undefinedFunction name => Text.quote name ++ " is not a defined function"
  | undefinedTemplate name => "template " ++ Text.quote name ++ " not defined"
  | noSuchField field typeName => "can't evaluate field " ++ field ++ " in type " ++ typeName
  | missingKey key => "map has no entry for key " ++ Text.quote key
  | nilData key => "nil data; no entry for key " ++ Text.quote key
  | nilPointer field => "nil pointer evaluating <nil>." ++ field
  | fieldHasArguments field => field ++ " has arguments but cannot be invoked as function"
  | arityMismatch name expected got variadic =>
    "wrong number of args for " ++ name ++ ": want " ++ (if variadic then "at least " else "")
      ++ toString expected ++ " got " ++ toString got
  | notAFunction operand => "can't give argument to non-function " ++ operand
  | callFailed name cause => "error calling " ++ name ++ ": " ++ cause
  | badTemplateArgs name expected got =>
    "bad template args " ++ Text.quote name ++ ". Want " ++ toString expected ++ " but got "
      ++ toString got ++ "."
  | depthExceeded limit => "exceeded maximum template depth (" ++ toString limit ++ ")"
  | notIterable value => "range can't iterate over " ++ value
  | notTestable value => "if/with can't use " ++ value
  | notPrintable operand typeName => "can't print " ++ operand ++ " of type " ++ typeName
  | emptyTemplate name => "'" ++ name ++ "' is an incomplete or empty template"
  | exit => "execution stopped by exit"
  | write cause => "error writing output: " ++ cause
  | panic message => "panic: " ++ message
  | custom message => message

/-- What travels as an error without being a failure. -/
inductive Signal where
  /-- The render ends and its output stands. -/
  | exit
  /-- The output failed with this text. -/
  | write (text : String)
deriving DecidableEq

/-- Where in a template an error arose. -/
structure Site where
  template : String
  /-- The source, line and column of the node, empty where unknown. -/
  location : String
  /-- The printed form of the node, cut. -/
  context : String
  /-- The templates from the entry to this one. -/
  path : String
deriving DecidableEq

/-- A template call that an error left. -/
structure Frame where
  name : String
  /-- Where the call stands, where known. -/
  location : Option String
deriving DecidableEq

/-- An error of evaluation. -/
structure EvalError where
  cause : Cause
  signal : Option Signal
  fatal : Bool
  span : Option Span
  site : Option Site
  /-- The calls that the error left, the last one first. -/
  frames : List Frame
  /-- Whether the error carries the native stack of a panic. -/
  traced : Bool
deriving DecidableEq

namespace EvalError

/-- The error of a cause, with nothing known of its place. -/
def of (cause : Cause) : EvalError := ⟨cause, none, false, none, none, [], false⟩

/-- A failure told by its message. -/
def new (message : String) : EvalError := of (.custom message)

/-- The signal to end the render. -/
def exit : EvalError := { of .exit with signal := some .exit }

/-- The signal that the output failed. -/
def write (text : String) : EvalError := { of (.write text) with signal := some (.write text) }

/-- A panic that was caught. -/
def panicked (message : String) : EvalError :=
  { of (.panic message) with fatal := true, traced := true }

/-- A panic that was caught, by its message if it had one. -/
def ofPanic (message : Option String) : EvalError := panicked (message.getD "unknown panic")

/-- An operator between two values it has no meaning for. -/
def badOperator (op : Operator) (left right : Value) : EvalError :=
  of (.badOperator op left.typeName right.typeName)

/-- A call with a number of arguments that the arity does not accept. -/
def arityMismatch (name : String) (arity : Arity) (got : Nat) : EvalError :=
  of (.arityMismatch name arity.fixed got arity.variadic)

/-- A function that failed under a name. -/
def callFailed (name : String) (e : EvalError) : EvalError :=
  of (.callFailed name e.cause.message)

/-- The wording of an error. -/
def message (e : EvalError) : String := e.cause.message

/-- Marks an error as fatal. -/
def intoFatal (e : EvalError) : EvalError := { e with fatal := true }

/-- Sets the span of an error. -/
def withSpan (e : EvalError) (span : Span) : EvalError := { e with span := some span }

/-- Sets the site of an error. -/
def withSite (e : EvalError) (site : Site) : EvalError := { e with site := some site }

/-- Records that an error left a template call. -/
def withFrame (e : EvalError) (name : String) (location : Option String) : EvalError :=
  { e with frames := ⟨name, location⟩ :: e.frames }

/-- Whether an error is a signal. -/
def isSignal (e : EvalError) : Bool := e.signal.isSome

/-- Whether an error is the signal to end the render. -/
def isExit (e : EvalError) : Bool := e.signal == some .exit

/-- The text of a failure of the output. -/
def writeText? (e : EvalError) : Option String :=
  match e.signal with
  | some (.write text) => some text
  | _ => none

/-- Whether a call may replace an error by one of its own: it is neither fatal nor a signal, and
its site is not known. -/
def isWrappable (e : EvalError) : Bool := !e.fatal && e.signal.isNone && e.site.isNone

/-- The lines of a backtrace from its frames, numbered from `i`. -/
def frameLines (i : Nat) : List Frame → String
  | [] => ""
  | f :: fs =>
    "  " ++ toString i ++ ": " ++ f.name
      ++ (match f.location with | some l => " at " ++ l | none => "") ++ "\n"
      ++ frameLines (i + 1) fs

/-- The calls that an error left, in the order in which it left them. -/
def backtrace (e : EvalError) : List Frame := e.frames.reverse

/-- The backtrace of an error as text, if it left a call. -/
def backtraceText? (e : EvalError) : Option String :=
  if e.frames.isEmpty then none else some ("stack backtrace:\n" ++ frameLines 0 e.backtrace)

end EvalError

/-- How a computation ends: with a value, with an error, or by a panic of the host. -/
inductive Outcome (α : Type) where
  | ok (a : α)
  | error (e : EvalError)
  /-- A panic, which may come without a message. -/
  | panic (message : Option String)

namespace Outcome

variable {α β : Type}

/-- Continues where a computation ended with a value. -/
def bind (o : Outcome α) (f : α → Outcome β) : Outcome β :=
  match o with
  | ok a => f a
  | error e => error e
  | panic m => panic m

/-- Changes the value of an outcome. -/
def map (f : α → β) (o : Outcome α) : Outcome β := o.bind fun a => ok (f a)

/-- The outcome of a computation that does not panic. -/
def ofExcept : Except EvalError α → Outcome α
  | .ok a => ok a
  | .error e => error e

end Outcome

end TextTemplate
