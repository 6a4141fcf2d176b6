import TextTemplate.Render.Write
import TextTemplate.Text.Utf8

/-!
# Calls in a render

How the program of a function acts on the render that calls it: calls of other functions, bodies
of callback blocks, and renders of other templates.
-/

set_option autoImplicit false

namespace TextTemplate

/-- The data and functions of data that brings functions along. -/
def Value.dataFuncs? : Value → Option (Value × Scope FuncValue)
  | .object _ (.dataFuncs data funcs) => .some (data, funcs)
  | _ => .none

namespace Walk

/-- The function to call. What a factory builds is kept for the rest of the render. -/
def resolve (host : Host) : FuncValue → Walk Function
  | .direct f => return f
  | .contextBound id => do
    match ← read fun s => s.built.lookup id with
    | some f => return f
    | none =>
      let f ← plain host (host.build id (← read fun s => s.context))
      modify fun s => { s with built := (id, f) :: s.built }
      return f

/-- The active callback block of a handle, if its variables are there. -/
def activeBlock? (s : State) (handle : Nat) : Option Block :=
  (Stack.get? s.blocks handle).filter fun b => b.base + 3 ≤ s.vars.length

/-- Overwrites the variable at a place, which must be there. -/
def setVariable (place : Nat) (v : Value) : Walk Unit :=
  changeAt (fun s => s.vars.length) place fun s => { s with vars := s.vars.setAt place v }

/-- Sets how often the body of a handle has run; the block must be there. -/
def setCalls (handle calls : Nat) : Walk Unit :=
  changeAt (fun s => s.blocks.length) handle fun s =>
    { s with blocks := Stack.modify s.blocks handle fun b => { b with calls := calls } }

/-- Walks the body of a callback block, and counts the run in the block and its variable. -/
def runBody (handle : Nat) (b : Block) (dot : Value) : Walk Unit := do
  let saved ← read fun s => (s.vars.length, s.sinks.length, s.place)
  (Walk.nodes b.body dot).after fun s =>
    { s.truncateSinks saved.2.1 with vars := s.vars.take saved.1, place := saved.2.2 }
  setCalls handle (b.calls + 1)
  setVariable b.base (.ofNat (b.calls + 1))

/-- Runs the body of a callback block, which finds the arguments, as a list, and their number in
its variables. -/
def invokeBlock (handle : Nat) (dot : Value) (args : List Value) : Walk Unit := do
  match ← read fun s => activeBlock? s handle with
  | none => fail (.new "callback is no longer active")
  | some b =>
    setVariable (b.base + 1) (← hold (.list args none))
    setVariable (b.base + 2) (.ofNat args.length)
    runBody handle b dot

/-- Asks for the body of a callback block to be run, and gives its output, which is empty unless it
is captured. -/
def runBlock (handle : Nat) (dot : Value) (args : List Value) (captured : Bool) :
    Walk ByteArray :=
  if captured then capture (perform (.invoke handle dot args))
  else do
    perform (.invoke handle dot args)
    return .empty

/-- The state at the start of a render that a template begins for another one. -/
def nestedState (s : State) (template : Template) (data : Value) : State :=
  let (store, resources) := s.resources.newStore
  let exec := s.exec.nested template (s.globals ++ s.vars) (s.depth + 1) s.step store
  match data.dataFuncs? with
  | some (inner, funcs) => .initial { exec with funcs := funcs } inner .unlimited resources
  | none => .initial exec data .unlimited resources

/-- Gives the output of the render that a template begins for another one. -/
def renderNested (name : String) (data : Value) : Walk ByteArray := fun s =>
  let frame (e : EvalError) := e.withFrame (s.template.name ++ "/" ++ name) none
  match s.callee name with
  | .error e => .done (.error e, s)
  | .ok template =>
    let start := nestedState s template data
    let back (inner : State) : State := { s with resources := inner.resources }
    match template.tree with
    | none => .done (.error (frame (.of (.emptyTemplate name))), back start)
    | some tree =>
      .ask (.render tree.root start.data) start fun
        | (.ok _, inner) => .done (.ok inner.writer.written, back inner)
        | (.error e, inner) => .done (.error (frame e), back inner)
        | (.panic message, inner) => .done (.panic message, back inner)

/-- Acts as a program says. -/
def program {α : Type} (host : Host) : Program α → Walk α
  | .finish p => plain host p
  | .run p next => do program host (next (← (plain host p).attempt))
  | .view next => do program host (next (← read State.view))
  | .newObject o next => do program host (next (← newObject o))
  | .receive channel next => do program host (next (← receive channel))
  | .updateStore update next => do
    modify fun s => { s with resources := s.resources.updateStore s.exec.store update }
    program host next
  | .write text next => do program host (next (← (writeText text).attempt))
  | .callValue f args next => do program host (next (← (ask (.call f args)).attempt))
  | .runBlock handle dot args captured next => do
    program host (next (← (runBlock handle dot args captured).attempt))
  | .render template data next => do
    let bytes ← (renderNested template (data.getD .invalid)).attempt
    program host (next (bytes.map Text.decodeText))
  | .yield template data next => do
    let yielded := do write (← renderNested template (data.getD .invalid))
    program host (next (← yielded.attempt))
termination_by structural p => p

/-- Calls a function by a name with arguments. Where the function fails, the error tells the
name, unless it has to pass as it is. -/
def callFunction (host : Host) (f : Function) (name : String) (args : List Value) :
    Walk Value := do
  ofExcept (f.checkArity name args.length)
  let place ← read fun s => s.place
  let result ← ((program host (f.program host args)).after fun s =>
    { s with place := place }).attempt
  match result with
  | .ok results => hold results.toValue
  | .error e => fail (if e.isWrappable then .callFailed name e else e)

/-- Calls a function value with arguments, without a name for its errors. -/
def callValue (host : Host) (f : Value) (args : List Value) : Walk Value :=
  match f.indirect with
  | .func value => do
    let f ← resolve host value
    if f.arity.accepts args.length then
      hold (← program host (f.program host args)).toValue
    else
      fail (.new ("wrong number of args: got " ++ toString args.length ++ " want "
        ++ (if f.arity.variadic then "at least " else "") ++ toString f.arity.fixed))
  | .invalid | .nil => fail (.new "call of nil")
  | other => fail (.new ("non-function of type " ++ other.typeName))

end Walk

end TextTemplate
