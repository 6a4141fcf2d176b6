import TextTemplate.Proofs.Anatomy
import TextTemplate.Proofs.Callback
import TextTemplate.Proofs.Ending

/-!
# What steps are composed of

Most of what a render does can be composed of a few kinds of steps: those that leave the output and
the active blocks alone, those that write, collect or watch output, and requests. What evaluation
and walks are made of is composed of these (`Walk.Made.composed`), and so is what programs do. Apart
from it stand the tasks that open a callback block and that run one.
-/

set_option autoImplicit false

namespace TextTemplate

variable {α β : Type} {host : Host}

/-- The same state with other output. -/
def State.redirect (s : State) (sinks : List Sink) (w : Writer) : State :=
  { s with sinks := sinks, writer := w }

/-- A view of the state that sees nothing of the output. -/
def State.Blind (f : State → α) : Prop := ∀ s sinks w, f (s.redirect sinks w) = f s

/-- A change of the state that neither sees nor changes the output, and changes no active block. -/
structure State.Inner (f : State → State) : Prop where
  redirect : ∀ s sinks w, f (s.redirect sinks w) = (f s).redirect sinks w
  blocks : ∀ s, (f s).blocks = s.blocks

private theorem State.Seen.blind {f : State → α} (h : State.Seen f) : State.Blind f :=
  fun _ _ _ ↦ h _ _ ⟨rfl, rfl, rfl, rfl, rfl, rfl, rfl, rfl, rfl, rfl, rfl, rfl, rfl⟩

/-- A change that does not see the output leaves the sinks. -/
theorem State.Inner.sinks {f : State → State} (h : State.Inner f) (s : State) :
    (f s).sinks = s.sinks :=
  (congrArg State.sinks (h.redirect s s.sinks s.writer) :)

/-- A change that does not see the output leaves the writer. -/
theorem State.Inner.writer {f : State → State} (h : State.Inner f) (s : State) :
    (f s).writer = s.writer :=
  (congrArg State.writer (h.redirect s s.sinks s.writer) :)

namespace Walk

/-- A step with a wrap's sink on top of the others, which is taken off after it, and what then comes
next, by whether content has come through the sink. -/
def watch (w : WrapSink) (m : Walk α) (k : Except EvalError α → Bool → Walk β) : Walk β := do
  let level ← read fun s => s.sinks.length
  modify fun s => { s with sinks := .wrap w :: s.sinks }
  let result ← m.attempt
  modify (State.truncateSinks (level + 1))
  let triggered ← read fun s => s.sinks.head?.any Sink.isOpen
  modify fun s => { s with sinks := s.sinks.tail }
  k result triggered

/-- The steps that a render is composed of, apart from opening and running callback blocks. -/
inductive Composed (host : Host) : {α : Type} → Walk α → Prop where
  | pure {α : Type} (a : α) : Composed host (Pure.pure a : Walk α)
  | fail {α : Type} (e : EvalError) : Composed host (Walk.fail e : Walk α)
  | read {α : Type} {f : State → α} : State.Blind f → Composed host (Walk.read f)
  | modify {f : State → State} : State.Inner f → Composed host (Walk.modify f)
  | ended {α : Type} (f : Resources → Ended α) : Composed host (Walk.ended f)
  | ask {task : Task} : task.isRender = false → Composed host (Walk.ask task)
  | text (s : String) : Composed host (writeText s)
  | render (name : String) (data : Value) : Composed host (renderNested name data)
  | yield (name : String) (data : Value) : Composed host (renderNested name data >>= write)
  | capture {m : Walk Unit} : Composed host m → Composed host (Walk.capture m)
  | watch {α β : Type} {strip : Bool} {before : Option (List Node)} {dot : Value} {m : Walk α}
      {k : Except EvalError α → Bool → Walk β} :
      Composed host m → (∀ result triggered, Composed host (k result triggered)) →
        Composed host (Walk.watch (.fresh strip before dot) m k)
  | bind {α β : Type} {m : Walk α} {f : α → Walk β} :
      Composed host m → (∀ a, Composed host (f a)) → Composed host (m >>= f)
  | attempt {α : Type} {m : Walk α} : Composed host m → Composed host m.attempt
  | after {α : Type} {m : Walk α} {f : State → State} :
      Composed host m → State.Inner f → Composed host (m.after f)
  | mapError {α : Type} {m : Walk α} {f : State → EvalError → EvalError} :
      Composed host m → State.Blind f → Composed host (m.mapError f)

namespace Composed

variable {m : Walk α}

private theorem ofExcept (x : Except EvalError α) : Composed host (Walk.ofExcept x) := by
  cases x with
  | ok a => exact .pure a
  | error e => exact .fail e

private theorem read_bind {f : State → α} {k : α → Walk β} (hf : State.Blind f)
    (hk : ∀ a, Composed host (k a)) : Composed host (Walk.read f >>= k) :=
  .bind (.read hf) hk

private theorem plain (p : Plain α) : Composed host (Walk.plain host p) := .ended _

private theorem hold (v : Value) : Composed host (Walk.hold v) := .ended _

private theorem newObject (o : Object) : Composed host (Walk.newObject o) := .ended _

private theorem receive (channel : Nat) : Composed host (Walk.receive channel) := .ended _

private theorem setPlace (span : Span) (subject : Subject) :
    Composed host (Walk.setPlace span subject) :=
  .modify ⟨fun _ _ _ ↦ rfl, fun _ ↦ rfl⟩

private theorem setVars (f : Bindings → Bindings) :
    Composed host (Walk.modify fun s ↦ { s with vars := f s.vars }) :=
  .modify ⟨fun _ _ _ ↦ rfl, fun _ ↦ rfl⟩

private theorem afterVars (hm : Composed host m) (f : Bindings → Bindings) :
    Composed host (m.after fun s ↦ { s with vars := f s.vars }) :=
  .after hm ⟨fun _ _ _ ↦ rfl, fun _ ↦ rfl⟩

private theorem inScope (hm : Composed host m) : Composed host (Walk.inScope m) :=
  .read_bind (fun _ _ _ ↦ rfl) fun mark ↦ hm.afterVars fun vars ↦ vars.take mark

private theorem perform {task : Task} (h : task.isRender = false) :
    Composed host (Walk.perform task) :=
  .bind (.ask h) fun _ ↦ .pure ()

private theorem nodes (ns : List Node) (dot : Value) :
    Composed host (Walk.nodes ns dot) :=
  .perform rfl

private theorem optional (nodes : Option (List Node)) (dot : Value) :
    Composed host (Walk.optional nodes dot) := by
  cases nodes with
  | none => exact .pure ()
  | some nodes => exact .perform rfl

private theorem runBlock (handle : Nat) (dot : Value) (args : List Value) (captured : Bool) :
    Composed host (Walk.runBlock handle dot args captured) := by
  rw [Walk.runBlock]
  split
  · exact .capture (.perform rfl)
  · exact .bind (.perform rfl) fun _ ↦ .pure _

end Composed

/-! ### Functions -/

private theorem resolve_composed (f : FuncValue) : Composed host (resolve host f) := by
  cases f with
  | direct f => exact .pure f
  | contextBound id =>
    apply Composed.read_bind (fun _ _ _ ↦ rfl)
    intro found
    split
    · exact .pure _
    · apply Composed.read_bind (fun _ _ _ ↦ rfl)
      intro context
      apply Composed.bind (.plain _)
      intro f
      exact .bind (.modify ⟨fun _ _ _ ↦ rfl, fun _ ↦ rfl⟩) fun _ ↦ .pure f

private theorem program_composed (p : Program α) : Composed host (program host p) := by
  induction p with
  | finish p => exact .plain p
  | run p next ih => exact .bind (.attempt (.plain p)) ih
  | view next ih => exact .read_bind (fun _ _ _ ↦ rfl) ih
  | newObject o next ih => exact .bind (.newObject o) ih
  | receive channel next ih => exact .bind (.receive channel) ih
  | updateStore update next ih =>
    exact .bind (.modify ⟨fun _ _ _ ↦ rfl, fun _ ↦ rfl⟩) fun _ ↦ ih
  | write text next ih => exact .bind (.attempt (.text text)) ih
  | callValue f args next ih => exact .bind (.attempt (.ask rfl)) ih
  | runBlock handle dot args captured next ih =>
    exact .bind (.attempt (.runBlock handle dot args captured)) ih
  | render template data next ih => exact .bind (.attempt (.render template _)) fun r ↦ ih _
  | yield template data next ih => exact .bind (.attempt (.yield template _)) ih

private theorem callFunction_composed (f : Function) (name : String) (args : List Value) :
    Composed host (callFunction host f name args) := by
  apply Composed.bind (.ofExcept _)
  intro _
  apply Composed.read_bind (fun _ _ _ ↦ rfl)
  intro place
  have called : Composed host ((program host (f.program host args)).after fun s ↦
      { s with place := place }) :=
    .after (program_composed _) ⟨fun _ _ _ ↦ rfl, fun _ ↦ rfl⟩
  apply Composed.bind (.attempt called)
  intro result
  cases result with
  | ok results => exact .hold _
  | error e => exact .fail _

private theorem callValue_composed (f : Value) (args : List Value) :
    Composed host (callValue host f args) := by
  rw [callValue]
  split
  · apply Composed.bind (resolve_composed _)
    intro g
    split
    · exact .bind (program_composed _) fun _ ↦ .hold _
    · exact .fail _
  · exact .fail _
  · exact .fail _
  · exact .fail _

/-! ### Evaluation and walks -/

variable {dot : Value}

private theorem enterTemplate_composed (span : Span) (node : Node) (name : String)
    (template : Template) (tree : Tree) (args : List Value) :
    Composed host (enterTemplate span node name template tree dot args) := by
  apply Composed.bind (.setPlace _ _)
  intro _
  apply Composed.read_bind (fun _ _ _ ↦ rfl)
  intro caller
  have begin : State.Inner (calleeState template tree dot args) :=
    ⟨fun _ _ _ ↦ rfl, fun _ ↦ rfl⟩
  apply Composed.bind (.modify begin)
  intro _
  apply Composed.mapError
  · exact .after (.perform rfl) ⟨fun _ _ _ ↦ rfl, fun _ ↦ rfl⟩
  · exact fun _ _ _ ↦ rfl

private theorem wrap_composed (strip : Bool) (body : List Node)
    (before after otherwise : Option (List Node)) :
    Composed host (wrap strip body before after otherwise dot) := by
  have ended (result : Except EvalError Unit) (triggered : Bool) : Composed host (do
      Walk.ofExcept result
      Walk.optional (if triggered then after else otherwise) dot) :=
    .bind (.ofExcept result) fun _ ↦ .optional _ _
  exact .inScope (.watch (.nodes body dot) ended)

/-- What evaluation and walks are made of is composed. -/
theorem Made.composed {m : Walk α} (h : Made host m) : Composed host m := by
  induction h with
  | pure a => exact .pure a
  | fail _ => exact .fail _
  | read hf => exact .read hf.blind
  | find hf _ => exact .bind (.read hf.blind) .ofExcept
  | hold v => exact .hold v
  | newObject o => exact .newObject o
  | receive channel => exact .receive channel
  | setVars f => exact .setVars f
  | setPlace span subject => exact .setPlace span subject
  | resolve f => exact resolve_composed f
  | call f name args => exact callFunction_composed f name args
  | text s => exact .text s
  | nodes ns dot => exact .nodes ns dot
  | collect ns dot => exact .capture (.nodes ns dot)
  | wrap => exact wrap_composed ..
  | callback => exact .ask rfl
  | enter => exact enterTemplate_composed ..
  | bind _ _ ih ihf => exact .bind ih ihf
  | afterVars f _ ih => exact ih.afterVars f
  | located _ ih => exact .mapError ih fun _ _ _ ↦ rfl

end Walk

/-- Whether a task opens or runs a callback block. -/
def Task.isBlock : Task → Bool
  | .invoke .. | .callback .. => true
  | _ => false

/-- Apart from opening and running callback blocks, all tasks are composed. -/
theorem Walk.start_composed {task : Task} (h : task.isBlock = false) :
    Composed host (start host task) := by
  cases task with
  | walk nodes dot | enter nodes dot | render nodes dot =>
    exact .bind (each_made nodes).composed fun _ ↦ .pure _
  | call f args => exact callValue_composed f args
  | invoke | callback => cases h

end TextTemplate
