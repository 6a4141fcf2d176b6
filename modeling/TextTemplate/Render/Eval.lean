import TextTemplate.Arithmetic
import TextTemplate.Render.Invoke
import TextTemplate.Render.Member

/-!
# Evaluation

The values of operands, commands and pipelines. Arguments are steps, evaluated only once the
number of them is known to be right; the result of the command before is the last argument of the
next one, unless it is no value.
-/

set_option autoImplicit false

namespace TextTemplate

/-- The value of a number literal: a floating-point number where it is written as one, and an
integer otherwise. -/
def Literal.value (n : Literal) : Except EvalError Value :=
  match (if n.isFloatSyntax then n.float else none), n.int, n.uint, n.float with
  | some x, _, _, _ => .ok (.float x)
  | none, some i, _, _ => .ok (.int i)
  | none, none, some _, _ => .error (.of (.intOverflow n.text))
  | none, none, none, some x => .ok (.float x)
  | none, none, none, none => .error (.new ("illegal number syntax: " ++ n.text))

namespace Walk

/-- Gives the innermost variable of a name a new value. -/
def assign (name : String) (value : Value) : Walk Unit := do
  match (← read fun s => s.vars).assign? name value with
  | some vars => modify fun s => { s with vars := vars }
  | none => fail (.of (.undefinedVariable name))

/-- Stores the value of a pipeline in a variable. -/
def declare (value : Value) (d : Declaration) : Walk Unit :=
  match d.assign with
  | .declare => modify fun s => { s with vars := s.vars ++ [(d.name, value)] }
  | .update => assign d.name value
  | .compound op => do
    match (← read fun s => s.vars).lookup d.name with
    | some old => assign d.name (← hold (← ofExcept (op.eval old value)))
    | none => fail (.of (.undefinedVariable d.name))

/-- Stores the value of a pipeline in its variables. -/
def declareAll (value : Value) : List Declaration → Walk Unit
  | [] => return ()
  | d :: rest => do
    declare value d
    declareAll value rest

/-- The values of steps. -/
def values : List (Walk Value) → Walk (List Value)
  | [] => return []
  | m :: rest => do
    let v ← m
    return v :: (← values rest)

/-- The value of the command before as an argument, unless it is no value. -/
def lastArgument (last : Value) : List Value := if last.isInvalid then [] else [last]

/-- Checks that neither arguments nor the value of a command before are given. -/
def noArguments (subject : String) (args : List (Walk Value)) (last : Value) : Walk Unit :=
  if args.isEmpty && last.isInvalid then return () else fail (.of (.notAFunction subject))

/-- Calls a function whose arguments are steps, if their number is right. -/
def call (host : Host) (f : Function) (name : String) (args : List (Walk Value)) (last : Value) :
    Walk Value := do
  ofExcept (f.checkArity name (args.length + (lastArgument last).length))
  callFunction host f name ((← values args) ++ lastArgument last)

/-- Calls the function that a name means. -/
def callNamed (host : Host) (name : String) (args : List (Walk Value)) (last : Value) :
    Walk Value := do
  match ← read fun s => s.findFunc? name with
  | some value => call host (← resolve host value) name args last
  | none => fail (.of (.undefinedFunction name))

/-- What a name gives on a value. -/
def member (host : Host) (receiver : Value) (name : String) (optional : Bool)
    (args : List (Walk Value)) (last : Value) : Walk Value := do
  match ← read fun s => Member.of s.exec.options s.missingKey receiver name optional with
  | .value v => return v
  | .field v =>
    if args.isEmpty && last.isInvalid then return v else fail (.of (.fieldHasArguments name))
  | .function value => call host (← resolve host value) name args last
  | .fault cause => fail (.of cause)

/-- What a path gives on a value. The last name takes the arguments. -/
def path (host : Host) (optional : Bool) (args : List (Walk Value)) (last : Value)
    (receiver : Value) : List String → Walk Value
  | [] => return receiver
  | [name] => member host receiver name optional args last
  | name :: rest => do
    path host optional args last (← member host receiver name optional [] .invalid) rest

/-- The value of the name of a function, two of which are the data and the dot of the template. -/
def identifier (host : Host) (name : String) (args : List (Walk Value)) (last : Value) :
    Walk Value :=
  match name with
  | "GLOBALS" => read fun s => s.data
  | "SELF" => do ofExcept (← read fun s => s.valueOf State.rootName)
  | _ => callNamed host name args last

end Walk

mutual

/-- The value of an operand with arguments. -/
def Operand.eval (host : Host) (dot : Value) :
    Operand → List (Walk Value) → Value → Walk Value
  | .mk span form, args, last => do
    Walk.setPlace span (.operand (.mk span form))
    form.eval host dot span args last
termination_by structural o => o

/-- The value of an operand by its form. -/
def OperandForm.eval (host : Host) (dot : Value) :
    OperandForm → Span → List (Walk Value) → Value → Walk Value
  | .field path optional, _, args, last => Walk.path host optional args last dot path
  | .chain base path, span, args, last => do
    let receiver ← base.argument host dot
    Walk.setPlace span (.operand (.mk span (.chain base path)))
    Walk.path host false args last receiver path
  | .identifier name, _, args, last => Walk.identifier host name args last
  | .variable name path, _, args, last => do
    let value ← Walk.ofExcept (← Walk.read fun s => s.valueOf name)
    if path.isEmpty then
      Walk.noArguments (OperandForm.print false (.variable name path)) args last
      return value
    else Walk.path host false args last value path
  | .dot, _, args, last => do
    Walk.noArguments (OperandForm.print false .dot) args last
    return dot
  | .nil, _, args, last => do
    Walk.noArguments (OperandForm.print false .nil) args last
    return .invalid
  | .bool b, _, args, last => do
    Walk.noArguments (OperandForm.print false (.bool b)) args last
    return .bool b
  | .number n, _, args, last => do
    Walk.noArguments (OperandForm.print false (.number n)) args last
    Walk.ofExcept n.value
  | .text s, _, args, last => do
    Walk.noArguments (OperandForm.print false (.text s)) args last
    return .text s
  | .pipe p, _, _, _ => p.eval host dot
  | .expr op lhs rhs, span, _, last => do
    let l ← lhs.eval host dot last
    let r ← rhs.eval host dot last
    Walk.setPlace span (.operand (.mk span (.expr op lhs rhs)))
    Walk.hold (← Walk.ofExcept (op.eval l r))
termination_by structural f => f

/-- The value of an operand as an argument, where `nil` is a value. -/
def Operand.argument (host : Host) (dot : Value) : Operand → Walk Value
  | .mk _ .nil => return .nil
  | .mk span form => do
    Walk.setPlace span (.operand (.mk span form))
    form.eval host dot span [] .invalid
termination_by structural o => o

/-- Operands as arguments to evaluate. -/
def Operand.arguments (host : Host) (dot : Value) : List Operand → List (Walk Value)
  | [] => []
  | o :: rest => o.argument host dot :: Operand.arguments host dot rest
termination_by structural os => os

/-- The value of a command after that of the command before. -/
def Command.eval (host : Host) (dot : Value) : Command → Value → Walk Value
  | .mk _ [], _ => Walk.fail (.new "empty command")
  | .mk _ (word :: args), last => word.eval host dot (Operand.arguments host dot args) last
termination_by structural c => c

/-- The value of the last of several commands. -/
def Command.evalAll (host : Host) (dot : Value) : List Command → Value → Walk Value
  | [], last => return last
  | c :: rest, last => do Command.evalAll host dot rest (← c.eval host dot last)
termination_by structural cs => cs

/-- The value of a pipeline, stored in its variables. -/
def Pipe.eval (host : Host) (dot : Value) : Pipe → Walk Value
  | .mk span declarations commands trimRight => do
    Walk.setPlace span (.pipe (.mk span declarations commands trimRight))
    let value ← Command.evalAll host dot commands .invalid
    Walk.declareAll value declarations
    return value
termination_by structural p => p

end

/-- The value of a command whose arguments are given as steps. -/
def Command.evalWith (host : Host) (dot : Value) (args : List (Walk Value)) (c : Command) :
    Walk Value :=
  match c.operands with
  | [] => Walk.fail (.new "empty command")
  | word :: _ => word.eval host dot args .invalid

end TextTemplate
