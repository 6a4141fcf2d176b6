import TextTemplate.Render.Eval

/-!
# Blocks

Nodes that treat their body apart: a wrap watches whether it has content, an argument block hands
its output to a function, and a callback block hands a function the means to run it.
-/

set_option autoImplicit false

namespace TextTemplate.Walk

/-- Prints a value that is no function to call first. -/
def printPlain (pipe : Pipe) (value : Value) : Walk Unit :=
  match value.indirect with
  | .chan _ | .block _ | .func _ => fail (.of (.notPrintable pipe.print value.typeName))
  | _ => writeText value.print

/-- Prints the value of an action. A function is called first. -/
def printValue (host : Host) (pipe : Pipe) (value : Value) : Walk Unit := do
  match value with
  | .func f => printPlain pipe (← callFunction host (← resolve host f) "anonymous function" [])
  | v => printPlain pipe v

/-- Prints the value of a block, if it is one. -/
def printResult (host : Host) (pipe : Pipe) (value : Value) : Walk Unit :=
  if value.isNil then return () else printValue host pipe value

/-- A body with nodes before and after it where it has content, and nodes instead where it has
none. -/
def wrap (strip : Bool) (body : List Node) (before after otherwise : Option (List Node))
    (dot : Value) : Walk Unit :=
  inScope do
    let level ← read fun s => s.sinks.length
    modify fun s => { s with sinks := .wrap (.fresh strip before dot) :: s.sinks }
    let result ← (Walk.nodes body dot).attempt
    modify (State.truncateSinks (level + 1))
    let triggered ← read fun s => s.sinks.head?.any Sink.isOpen
    modify fun s => { s with sinks := s.sinks.tail }
    ofExcept result
    optional (if triggered then after else otherwise) dot

/-- The command of a block that calls its function, and the dot, which is the value of the
commands before. -/
def blockCall (host : Host) (pipe : Pipe) (dot : Value) : Walk (Command × Value) := do
  setPlace pipe.span (.pipe pipe)
  match pipe.commands.getLast? with
  | none => fail (.new "missing function in block")
  | some call =>
    match pipe.commands.dropLast with
    | [] => return (call, dot)
    | leading => return (call, ← Command.evalAll host dot leading .invalid)

/-- Calls a function with its arguments and the output of a body. -/
def argBlock (host : Host) (pipe : Pipe) (body : List Node) (dot : Value) : Walk Unit :=
  inScope do
    let (call, dot) ← blockCall host pipe dot
    let bytes ← capture (Walk.nodes body dot)
    let args := Operand.arguments host dot call.operands.tail
    let value ← call.evalWith host dot (args ++ [return .text (Text.decodeText bytes)])
    printResult host pipe value

/-- The variables of a callback block: how often its body has run, and the arguments and their
number. -/
def blockVariables : Bindings := [("$0", .int 0), ("$@", .invalid), ("$!", .invalid)]

/-- The state in which the function of a callback block is called. -/
def openBlock (body : List Node) (s : State) : State :=
  { s with
    blocks := ⟨body, s.vars.length, 0⟩ :: s.blocks
    vars := s.vars ++ blockVariables }

/-- Calls a function with the dot, the handle of a body, and its arguments. The body can be run
until the call ends. -/
def callWithBlock (host : Host) (call : Command) (body : List Node) (dot : Value) :
    Walk Value := do
  let handle ← read fun s => s.blocks.length
  modify (openBlock body)
  let args := Operand.arguments host dot call.operands.tail
  (call.evalWith host dot ([return dot, return .block handle] ++ args)).after
    fun s => { s with blocks := s.blocks.tail }

/-- Calls a function with a body that it can run. -/
def callbackBlock (host : Host) (pipe : Pipe) (body : List Node) (dot : Value) : Walk Unit :=
  inScope do
    let (call, dot) ← blockCall host pipe dot
    let value ← ask (.callback call body dot)
    printResult host pipe value

end TextTemplate.Walk
