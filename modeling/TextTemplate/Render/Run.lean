import TextTemplate.Render.State

/-!
# Runs

A run is a computation of a render that can ask for another one: to walk nodes, to call a function,
or to run the body of a callback block. It is a finite tree up to such requests, so it is defined by
recursion on syntax; only the loop that answers the requests goes on without a bound of its own, and
takes a budget.
-/

set_option autoImplicit false

namespace TextTemplate

/-- What a run can ask for. -/
inductive Task where
  /-- To walk nodes with a dot. -/
  | walk (nodes : List Node) (dot : Value)
  /-- To walk the nodes of a called template. -/
  | enter (nodes : List Node) (dot : Value)
  /-- To walk the nodes of a template in a render of its own. -/
  | render (nodes : List Node) (dot : Value)
  /-- To call a function value. -/
  | call (f : Value) (args : List Value)
  /-- To run the body of a callback block. -/
  | invoke (handle : Nat) (dot : Value) (args : List Value)
  /-- To call the function of a callback block. -/
  | callback (call : Command) (body : List Node) (dot : Value)

/-- How a task ended, and the state it left. Only calls give a value. -/
abbrev Reply := Outcome Value × State

/-- A computation that may ask for tasks. -/
inductive Run (α : Type) where
  | done (a : α)
  | ask (task : Task) (s : State) (next : Reply → Run α)

namespace Run

variable {α β : Type}

/-- Continues a run. -/
def bind (f : α → Run β) : Run α → Run β
  | done a => f a
  | ask task s next => ask task s fun r => (next r).bind f

/-- Goes on with a run and the runs that wait for its reply, the nearest first, and counts the
steps. -/
def loop (start : Task → State → Run Reply) :
    Nat → Run Reply → List (Reply → Run Reply) → Option Reply
  | 0, _, _ => none
  | budget + 1, done r, waiting =>
    match waiting with
    | [] => some r
    | next :: rest => loop start budget (next r) rest
  | budget + 1, ask task s next, waiting => loop start budget (start task s) (next :: waiting)

end Run

end TextTemplate
