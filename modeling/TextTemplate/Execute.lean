import TextTemplate.Render.Node
import TextTemplate.RenderError

/-!
# Executing templates

A render from its start to what its caller learns: the output, and why it failed if it did. An
exit ends a render quietly, and a panic of the host is told as an error, unless the executor lets
them through.
-/

set_option autoImplicit false

namespace TextTemplate

/-- How a render ended for its caller. -/
inductive Verdict where
  | ok
  | error (e : RenderError)
  /-- A panic that the executor let through. -/
  | panic (message : Option String)

/-- What a render leaves. -/
structure Rendered where
  verdict : Verdict
  writer : Writer
  resources : Resources

namespace Executor

/-- Writes a fixed output. -/
def writeRaw (raw : RawOutput) (w : Writer) : Outcome Unit × Writer :=
  match w.write raw.content with
  | (w, some fault) => (.error (.write fault), w)
  | (w, none) =>
    match raw.fault with
    | some fault => (.error (.write fault), w)
    | none => (.ok (), w)

/-- The outcome of the walk of a template. A panic that is caught is an error at its place. -/
def settle (e : Executor) (reply : Reply) : Outcome Unit × Writer × Resources :=
  let (outcome, s) := reply
  let outcome := match outcome with
    | .panic message =>
      if e.captures then .error (s.locate (.ofPanic message)) else .panic message
    | outcome => outcome.map fun _ => ()
  (outcome, s.writer, s.resources)

/-- Renders the template of an executor. -/
def render (host : Host) (budget : Nat) (e : Executor) (data : Value) (w : Writer)
    (r : Resources) : Option (Outcome Unit × Writer × Resources) :=
  match e.raw with
  | some raw =>
    let (outcome, w) := writeRaw raw w
    some (outcome, w, r)
  | none =>
    match e.template.tree with
    | none => some (.error (.of (.emptyTemplate e.template.name)), w, r)
    | some tree => (Walk.run host budget tree.root data (.initial e data w r)).map e.settle

/-- Writes the text of an error to the output if the executor's policy says so. -/
def report (e : Executor) (error : RenderError) (w : Writer) : RenderError × Writer :=
  if e.writesErrors then
    match w.writeText error.message with
    | (w, none) => (error, w)
    | (w, some fault) => (.write fault, w)
  else (error, w)

/-- What the caller of a render learns of an error. -/
def conclude (e : Executor) (error : EvalError) (w : Writer) : Verdict × Writer :=
  if error.isExit && e.captures then (.ok, w)
  else match error.writeText? with
    | some text => (.error (.write text), w)
    | none =>
      let (error, w) := e.report
        (.exec (.ofCause error e.template.name (pathOfSteps e.fullPath))) w
      (.error error, w)

/-- Renders and concludes. -/
def finish (host : Host) (budget : Nat) (e : Executor) (data : Value) (w : Writer)
    (r : Resources) : Option Rendered :=
  (e.render host budget data w r).map fun (outcome, w, r) =>
    match outcome with
    | .ok _ => ⟨.ok, w, r⟩
    | .panic message => ⟨.panic message, w, r⟩
    | .error error =>
      let (verdict, w) := e.conclude error w
      ⟨verdict, w, r⟩

/-- The executor with additional functions, in one child for all of them. -/
def extended (e : Executor) (extra : List (List (String × FuncValue))) (r : Resources) :
    Executor × Option ScopeError × Resources :=
  match extra with
  | [] => (e, none, r)
  | _ =>
    let (store, r) := r.newStore
    let (c, fault) := (e.child store).addFuncs extra.flatten
    (c, fault, r)

/-- Renders data with additional functions. Functions that the data brings along hold for the
render too. -/
def execute (host : Host) (budget : Nat) (e : Executor) (data : Value)
    (extra : List (List (String × FuncValue))) (w : Writer) (r : Resources) : Option Rendered :=
  match e.extended extra r with
  | (_, some fault, r) =>
    let (error, w) := e.report (.func fault) w
    some ⟨.error error, w, r⟩
  | (e, none, r) =>
    match data.dataFuncs? with
    | some (data, funcs) =>
      let (store, r) := r.newStore
      (e.withScope funcs store).finish host budget data w r
    | none => e.finish host budget data w r

end Executor

namespace TemplateSet

/-- Renders the template of a name. -/
def execute (host : Host) (budget : Nat) (s : TemplateSet) (name : String) (data : Value)
    (w : Writer) (r : Resources) : Option Rendered :=
  let (store, r) := r.newStore
  match Executor.ofSet? s name store with
  | some e => e.execute host budget data [] w r
  | none => some ⟨.error (.noTemplate name s.name), w, r⟩

end TemplateSet

end TextTemplate
