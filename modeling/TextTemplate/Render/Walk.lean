import TextTemplate.Render.Run

/-!
# Steps of a render

A step reads and changes the state of a render and ends with a value, with an error or by a
panic. An error ends all steps after it until one that looks at it (`attempt`); a panic ends
them all.
-/

set_option autoImplicit false

namespace TextTemplate

/-- A step of a render. -/
def Walk (α : Type) := State → Run (Outcome α × State)

namespace Walk

variable {α β : Type}

/-- The step that gives a value. -/
def pure (a : α) : Walk α := fun s => .done (.ok a, s)

/-- A step and, if it gives a value, another one. -/
def bind (m : Walk α) (f : α → Walk β) : Walk β := fun s =>
  (m s).bind fun
    | (.ok a, s) => f a s
    | (.error e, s) => .done (.error e, s)
    | (.panic message, s) => .done (.panic message, s)

instance : Monad Walk where
  pure := pure
  bind := bind

/-- The step that fails. -/
def fail (e : EvalError) : Walk α := fun s => .done (.error e, s)

/-- The step that gives what a pure computation gives. -/
def ofExcept : Except EvalError α → Walk α
  | .ok a => pure a
  | .error e => fail e

/-- Looks at the error of a step. -/
def attempt (m : Walk α) : Walk (Except EvalError α) := fun s =>
  (m s).bind fun
    | (.ok a, s) => .done (.ok (.ok a), s)
    | (.error e, s) => .done (.ok (.error e), s)
    | (.panic message, s) => .done (.panic message, s)

/-- Reads the state. -/
def read (f : State → α) : Walk α := fun s => .done (.ok (f s), s)

/-- Changes the state. -/
def modify (f : State → State) : Walk Unit := fun s => .done (.ok (), f s)

/-- The message of the panic at a place beyond the end of a stack. -/
def outOfBounds (length place : Nat) : String :=
  "index out of bounds: the len is " ++ toString length ++ " but the index is " ++ toString place

/-- Changes the state at a place of one of its stacks, which must be there. -/
def changeAt (length : State → Nat) (place : Nat) (f : State → State) : Walk Unit := fun s =>
  if place < length s then .done (.ok (), f s)
  else .done (.panic (some (outOfBounds (length s) place)), s)

/-- Changes the state after a step, whether it gives a value or fails. -/
def after (m : Walk α) (f : State → State) : Walk α := do
  let result ← m.attempt
  modify f
  ofExcept result

/-- Changes the error of a step by what the state then is. -/
def mapError (m : Walk α) (f : State → EvalError → EvalError) : Walk α := fun s =>
  (m s).bind fun
    | (.error e, s) => .done (.error (f s e), s)
    | r => .done r

/-- Asks for a task. -/
def ask (task : Task) : Walk Value := fun s => .ask task s .done

/-- Asks for a task that gives no value. -/
def perform (task : Task) : Walk Unit := do
  let _ ← ask task
  return ()

/-- Asks for nodes to be walked. -/
def nodes (ns : List Node) (dot : Value) : Walk Unit := perform (.walk ns dot)

/-- Asks for nodes to be walked if there are any. -/
def optional (ns : Option (List Node)) (dot : Value) : Walk Unit :=
  match ns with
  | some ns => nodes ns dot
  | none => return ()

/-- Runs a computation that uses resources. -/
def ended (f : Resources → Ended α) : Walk α := fun s =>
  match f s.resources with
  | (outcome, r) => .done (outcome, { s with resources := r })

/-- Runs a plain computation. -/
def plain (host : Host) (p : Plain α) : Walk α := ended (p.run host)

/-- Makes an object. -/
def newObject (o : Object) : Walk Value :=
  ended fun r => match r.newObject o with | (v, r) => (.ok v, r)

/-- Takes up a value that was just made. -/
def hold (v : Value) : Walk Value :=
  ended fun r => match r.hold v with | (v, r) => (.ok v, r)

/-- Takes the first item out of a channel. -/
def receive (channel : Nat) : Walk (Option Value) :=
  ended fun r => match r.receive channel with | (v, r) => (.ok v, r)

/-- Sets the place that errors are told to come from. -/
def setPlace (span : Span) (subject : Subject) : Walk Unit :=
  modify fun s => { s with place := some (span, subject) }

/-- A step whose new variables are dropped after it. -/
def inScope (m : Walk α) : Walk α := do
  let mark ← read fun s => s.vars.length
  m.after fun s => { s with vars := s.vars.take mark }

end Walk

end TextTemplate
