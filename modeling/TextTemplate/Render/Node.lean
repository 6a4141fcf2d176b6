import TextTemplate.Render.Block
import TextTemplate.Render.Repeat

/-!
# Nodes

What walking a node does. Errors are located at the innermost node that they leave, and record
the template calls that they leave after it.
-/

set_option autoImplicit false

namespace TextTemplate.Walk

/-- A choice by the truth of a pipeline, whose value is the dot of the body of a scope. -/
def choose (host : Host) (kind : BranchKind) (pipe : Pipe) (body : List Node)
    (otherwise : Option (List Node)) (dot : Value) : Walk Unit :=
  inScope do
    let value ← pipe.eval host dot
    match value.truth? with
    | none => fail (.of (.notTestable value.print))
    | some true => Walk.nodes body (if kind = .scope then value else dot)
    | some false => optional otherwise dot

/-- The dot and the arguments of a template call. The operands of a single command are evaluated
against the caller's dot; any other pipeline gives the dot alone. -/
def callArguments (host : Host) (pipe : Option Pipe) (dot : Value) :
    Walk (Value × List Value) :=
  match pipe with
  | none => return (dot, [])
  | some pipe =>
    match pipe.commands with
    | [.mk _ (first :: rest)] => do
      let newDot ← first.argument host dot
      declareAll newDot pipe.declarations
      return (newDot, ← values (Operand.arguments host dot rest))
    | _ => do return (← pipe.eval host dot, [])

/-- The variables at the start of a called template: those of the caller that it inherits, the
new dot, and its arguments. -/
def calleeVariables (tree : Tree) (caller : Bindings) (dot : Value) (args : List Value) :
    Bindings :=
  caller.take tree.inherited ++ [(State.rootName, dot)] ++ tree.args.zip args

/-- What a caller sets aside during a call. -/
structure Caller where
  template : Template
  vars : Bindings
  place : Option (Span × Subject)

namespace Caller

/-- The caller that a state is. -/
def of (s : State) : Caller := ⟨s.template, s.vars, s.place⟩

/-- The state of a caller after a call of a template. -/
def restore (c : Caller) (callee : Template) (s : State) : State :=
  { s with
    template := c.template
    vars := c.vars
    depth := s.depth - 1
    overrides := State.popFuncs callee s.overrides
    place := c.place }

end Caller

/-- The state at the start of a called template. -/
def calleeState (template : Template) (tree : Tree) (dot : Value) (args : List Value)
    (s : State) : State :=
  { s with
    template := template
    vars := calleeVariables tree s.vars dot args
    depth := s.depth + 1
    overrides := State.pushFuncs template s.overrides }

/-- Walks another template with a dot and arguments of its own. -/
def enterTemplate (span : Span) (node : Node) (name : String) (template : Template) (tree : Tree)
    (dot : Value) (args : List Value) : Walk Unit := do
  setPlace span (.node node)
  let caller ← read Caller.of
  modify (calleeState template tree dot args)
  ((perform (.enter tree.root dot)).after (caller.restore template)).mapError fun s e =>
    e.withFrame name (some s.step.text)

/-- A call of another template. -/
def callTemplate (host : Host) (span : Span) (name : String) (pipe : Option Pipe) (dot : Value) :
    Walk Unit := do
  let template ← ofExcept (← read fun s => s.callee name)
  match template.tree with
  | none => fail (.of (.emptyTemplate name))
  | some tree =>
    let (newDot, args) ← callArguments host pipe dot
    if args.length ≠ tree.args.length then
      fail (.of (.badTemplateArgs name tree.args.length args.length))
    enterTemplate span (.template span name pipe) name template tree newDot args

/-- Walks a node without locating its errors. -/
def node (host : Host) (dot : Value) : Node → Walk Unit
  | .text _ s => writeText s
  | .action _ pipe => do
    let value ← pipe.eval host dot
    if pipe.declarations.isEmpty then printValue host pipe value
  | .branch .loop _ pipe body otherwise => loop host pipe body otherwise dot
  | .branch kind _ pipe body otherwise => choose host kind pipe body otherwise dot
  | .template span name pipe => callTemplate host span name pipe dot
  | .list _ nodes => Walk.nodes nodes dot
  | .wrap _ pipe body before after otherwise =>
    wrap (Node.strips pipe) body before after otherwise dot
  | .block .arg _ pipe body => argBlock host pipe body dot
  | .block .callback _ pipe body => callbackBlock host pipe body dot

/-- Walks nodes one after the other. -/
def each (host : Host) (dot : Value) : List Node → Walk Unit
  | [] => return ()
  | n :: rest => do
    setPlace n.span (.node n)
    (node host dot n).mapError State.locate
    each host dot rest

/-- Does what a task asks for. -/
def start (host : Host) : Task → Walk Value
  | .walk nodes dot | .enter nodes dot | .render nodes dot => do
    each host dot nodes
    return .invalid
  | .call f args => callValue host f args
  | .invoke handle dot args => do
    invokeBlock handle dot args
    return .invalid
  | .callback call body dot => callWithBlock host call body dot

/-- Walks nodes and all that they ask for, in at most as many steps as the budget allows. -/
def run (host : Host) (budget : Nat) (nodes : List Node) (dot : Value) (s : State) :
    Option Reply :=
  Run.loop (start host) budget (start host (.walk nodes dot) s) []

end TextTemplate.Walk
