import TextTemplate.Executor
import TextTemplate.Program.Call
import TextTemplate.Render.Output
import TextTemplate.Render.Stack

/-!
# A running render

What a render knows and changes as it walks a template: the variables, the functions in force,
the active callback blocks, the node it is at, and the output. Stacks are kept with the innermost
entry first, apart from the variables.
-/

set_option autoImplicit false

namespace TextTemplate

/-- A piece of syntax that errors can quote. -/
inductive Subject where
  | node (n : Node)
  | pipe (p : Pipe)
  | operand (o : Operand)

/-- The printed form of a subject. -/
def Subject.print : Subject → String
  | node n => n.print
  | pipe p => p.print
  | operand o => o.print false

/-- The body of a callback block while the function that received its handle runs. The handle is
the number of the block in the stack of active blocks. -/
structure Block where
  body : List Node
  /-- The place of the block's first variable; two more follow it. -/
  base : Nat
  /-- How often the body has run to its end. -/
  calls : Nat

/-- Names with values, the outermost first. -/
abbrev Bindings := List (String × Value)

namespace Bindings

/-- The innermost value of a name. -/
def lookup (vars : Bindings) (name : String) : Option Value :=
  (vars.reverse.find? fun b => b.1 == name).map Prod.snd

/-- Overwrites the innermost value of a name, if there is one. -/
def assign? (name : String) (v : Value) : Bindings → Option Bindings
  | [] => none
  | b :: rest =>
    match assign? name v rest with
    | some rest => some (b :: rest)
    | none => if b.1 == name then some ((b.1, v) :: rest) else none

/-- Overwrites the value at a place. -/
def setAt (vars : Bindings) (i : Nat) (v : Value) : Bindings :=
  vars.modify i fun b => (b.1, v)

/-- Overwrites the `n`th value from the end. -/
def setFromEnd (vars : Bindings) (n : Nat) (v : Value) : Bindings :=
  if n ≤ vars.length then vars.setAt (vars.length - n) v else vars

end Bindings

/-- A running render. -/
structure State where
  exec : Executor
  /-- The template whose nodes are walked. -/
  template : Template
  vars : Bindings
  /-- Variables below those of the render. -/
  globals : Bindings
  /-- The depth of template calls. -/
  depth : Nat
  /-- The data that the render started with. -/
  data : Value
  missingKey : MissingKey
  /-- What factories build functions from. -/
  context : Context
  /-- The functions that factories have built. -/
  built : List (Nat × Function)
  /-- The functions of the called templates, innermost first. -/
  overrides : List (Scope FuncValue)
  blocks : List Block
  /-- What is being evaluated. -/
  place : Option (Span × Subject)
  sinks : List Sink
  writer : Writer
  resources : Resources

namespace State

/-- The name of the variable for the dot that a template began with. -/
def rootName : String := "$"

/-- The functions of a template as the functions in force, if there are any. -/
def pushFuncs (t : Template) (overrides : List (Scope FuncValue)) : List (Scope FuncValue) :=
  if t.funcs.isEmpty then overrides else t.funcs :: overrides

/-- A render at its start. -/
def initial (exec : Executor) (data : Value) (writer : Writer) (resources : Resources) :
    State where
  exec := exec
  template := exec.template
  vars := [(rootName, data)]
  globals := exec.options.globals
  depth := exec.depth
  data := data
  missingKey := exec.missingKey
  context := .mk exec.funcs data exec.options.payload
  built := []
  overrides := pushFuncs exec.template []
  blocks := []
  place := none
  sinks := []
  writer := writer
  resources := resources

/-- The functions in force before those of a template came to them. -/
def popFuncs (t : Template) (overrides : List (Scope FuncValue)) : List (Scope FuncValue) :=
  if t.funcs.isEmpty then overrides else overrides.tail

/-- Drops the sinks above the oldest `level`. -/
def truncateSinks (level : Nat) (s : State) : State :=
  { s with sinks := Stack.oldest s.sinks level }

/-- The value of a variable, among those of the render first. -/
def lookup (s : State) (name : String) : Option Value := Bindings.lookup (s.globals ++ s.vars) name

/-- The value of a variable. -/
def valueOf (s : State) (name : String) : Except EvalError Value :=
  match s.lookup name with
  | some v => .ok v
  | none => .error (.of (.undefinedVariable name))

/-- The location of the place in the source, and its printed form, cut. -/
def whereabouts (s : State) (locate : Tree → Span → String) : String × String :=
  match s.place, s.template.tree with
  | some (span, subject), some tree => (locate tree span, truncateContext subject.print)
  | _, _ => ("", "")

/-- The site of an error that arises now. -/
def site (s : State) : Site :=
  let (location, context) := s.whereabouts Tree.location
  ⟨s.template.name, location, context, pathOfSteps s.exec.fullPath⟩

/-- An error with its place, unless that is known. Signals are passed on as they are. -/
def locate (s : State) (e : EvalError) : EvalError :=
  if e.site.isSome || e.isSignal then e
  else { e with
    site := some s.site
    span := e.span.or (s.place.map Prod.fst) }

/-- Where the render is, as a step of a path. -/
def step (s : State) : Step :=
  let (location, context) := s.whereabouts fun tree span => (tree.position span).text
  ⟨s.template.name, s.template.sourceName, location, context⟩

/-- The functions that the data brings along: the methods of objects and records, and the
functions among fields and entries. Where an object has attributes, they alone count. -/
def dataFunc? (data : Value) (name : String) : Option FuncValue :=
  match data.indirect with
  | .object _ o =>
    match o.attributes? with
    | some attributes => (attributes.lookup name).bind Value.asFunc?
    | none =>
      match o.method? name with
      | some f => some (.direct f)
      | none => (o.field? name).bind Value.asFunc?
  | .record r cell =>
    match r.method? name with
    | some f => some (.direct (f.bind (.record r cell)))
    | none => (r.field? name).bind Value.asFunc?
  | .map entries _ => (entries.get? (.text name)).bind Value.asFunc?
  | _ => none

/-- The function that a name means: one of the render itself, of the running template, of the
templates that called it, of the executor, or of the data, in this order. -/
def findFunc? (s : State) (name : String) : Option FuncValue :=
  (Builtin.renderScope.get? name)
    <|> (s.template.funcs.get? name)
    <|> (s.overrides.findSome? fun scope => scope.get? name)
    <|> (s.exec.findFunc? name)
    <|> (dataFunc? s.data name)

/-- The template to call under a name, unless calls are too deep. -/
def callee (s : State) (name : String) : Except EvalError Template :=
  match s.exec.set.lookup name with
  | none => .error (.of (.undefinedTemplate name))
  | some t =>
    if s.exec.options.depthLimit ≤ s.depth then
      .error (.of (.depthExceeded s.exec.options.depthLimit))
    else .ok t

/-- What functions can read of the render. -/
def view (s : State) : View where
  data := s.data
  binding? := s.lookup
  depth := s.depth
  templateName := s.template.name
  context := s.context
  findFunc? := s.findFunc?
  filterFuncs := s.exec.filterFuncs
  store := s.resources.store s.exec.store
  queued := s.resources.queued

end State

end TextTemplate
