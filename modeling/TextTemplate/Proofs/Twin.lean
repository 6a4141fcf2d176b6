import Mathlib.Data.List.Forall2
import TextTemplate.Proofs.Anatomy
import TextTemplate.Proofs.Confusion
import TextTemplate.Proofs.Contract
import TextTemplate.Proofs.Layer
import TextTemplate.Proofs.Link

/-!
# Twin runs

Two states are twins if they differ in layers that hold nothing, in contexts that the host confuses,
and in which stores have the local data. What runs from the one does what it does from the other:
it asks for the same tasks, in states that are twins again (`Walk.start_twinned`). So the loop takes
the same number of steps with both (`Walk.run_twins`).
-/

set_option autoImplicit false

namespace TextTemplate

variable {α β : Type} {host : Host} {l : Link}

namespace State

/-- The same state of a render by another executor, with another context and other resources. -/
def rebase (s : State) (exec : Executor) (context : Context) (resources : Resources) : State :=
  { s with exec := exec, context := context, resources := resources }

/-- A change of the state that neither sees nor changes the executor, the context and the
resources. -/
def Apart (f : State → State) : Prop :=
  ∀ s exec context resources,
    f (s.rebase exec context resources) = (f s).rebase exec context resources

/-- Two states differ in their executors, which render alike, in contexts that the host confuses,
and in resources, which are linked. -/
inductive Twin (host : Host) (l : Link) : State → State → Prop where
  | mk {s : State} {exec : Executor} {context : Context} {resources : Resources} :
      s.exec.RendersAs exec → l.Joins s.exec.store exec.store → host.Confuses s.context context →
        s.resources.Linked l resources → Twin host l s (s.rebase exec context resources)

namespace Twin

variable {s t : State}

/-- Twins are alike. -/
theorem alike (h : s.Twin host l t) : s.Alike t := by
  obtain ⟨he, -, -, hr⟩ := h
  exact ⟨rfl, rfl, rfl, rfl, rfl, rfl, rfl, rfl, he.set.symm, he.options.symm, he.findFunc?.symm,
    he.fullPath.symm, hr.channels.symm⟩

private theorem confuses (h : s.Twin host l t) : host.Confuses s.context t.context := by
  obtain ⟨-, -, hc, -⟩ := h
  exact hc

/-- What a function sees of twins differs in the context alone. -/
theorem view (h : s.Twin host l t) : t.view = { s.view with context := t.context } := by
  have hfind : s.findFunc? = t.findFunc? := funext h.alike.findFunc?
  obtain ⟨he, hj, -, hr⟩ := h
  rw [State.view, State.view, hfind]
  simp only [rebase, he.filterFuncs, hr.store hj, hr.queued]
  rfl

private theorem change {f : State → State} (hf : State.Apart f) (h : s.Twin host l t) :
    (f s).Twin host l (f t) := by
  obtain ⟨he, hj, hc, hr⟩ := h
  have hself : f s = (f s).rebase s.exec s.context s.resources := hf s ..
  rw [hf]
  refine ⟨?_, ?_, ?_, ?_⟩
  · rwa [hself]
  · rwa [hself]
  · rwa [hself]
  · rwa [hself]

/-- Renders that start alike start as twins. -/
theorem initial {x y : Executor} (he : x.RendersAs y) (hj : l.Joins x.store y.store) {data : Value}
    (hc : host.Confuses (x.context data) (y.context data)) {r r' : Resources}
    (hr : r.Linked l r') (w : Writer) :
    (State.initial x data w r).Twin host l (State.initial y data w r') := by
  have hy : State.initial y data w r' =
      (State.initial x data w r).rebase y (y.context data) r' := by
    simp only [State.initial, rebase, Executor.context, he.template, he.options, he.depth,
      he.missingKey]
  rw [hy]
  exact ⟨he, hj, hc, hr⟩

end Twin

end State

/-- A run does from a state what another one does from its twin. -/
inductive Run.Twins (host : Host) (l : Link) :
    Run (Outcome α × State) → Run (Outcome α × State) → Prop where
  | done {o : Outcome α} {s t : State} :
      s.Twin host l t → Twins host l (.done (o, s)) (.done (o, t))
  | ask {task : Task} {s t : State} {next next' : Reply → Run (Outcome α × State)} :
      s.Twin host l t →
        (∀ o u v, u.Twin host l v → Twins host l (next (o, u)) (next' (o, v))) →
          Twins host l (.ask task s next) (.ask task t next')

private theorem Run.Twins.bind {x y : Run (Outcome α × State)}
    {f g : Outcome α × State → Run (Outcome β × State)} (h : x.Twins host l y)
    (hf : ∀ o u v, u.Twin host l v → (f (o, u)).Twins host l (g (o, v))) :
    (x.bind f).Twins host l (y.bind g) := by
  induction h with
  | done h => exact hf _ _ _ h
  | ask h _ ih => exact .ask h ih

/-- A step does the same from twins. -/
def Walk.Twinned (host : Host) (l : Link) (m : Walk α) : Prop :=
  ∀ s t, s.Twin host l t → (m s).Twins host l (m t)

namespace Walk.Twinned

variable {m : Walk α}

private theorem pure (a : α) : (Pure.pure a : Walk α).Twinned host l := fun _ _ ↦ .done

private theorem fail (e : EvalError) : (Walk.fail e : Walk α).Twinned host l := fun _ _ ↦ .done

private theorem ofExcept (x : Except EvalError α) : (Walk.ofExcept x).Twinned host l := by
  cases x with
  | ok a => exact pure a
  | error e => exact fail e

/-- Evaluation cannot tell twins apart. -/
theorem see {f : State → α} (hf : State.Seen f) : (Walk.read f).Twinned host l := by
  intro s t h
  rw [Walk.read, Walk.read, hf s t h.alike]
  exact .done h

private theorem read {f : State → α}
    (hf : ∀ s exec context resources, f (s.rebase exec context resources) = f s) :
    (Walk.read f).Twinned host l := by
  rintro s _ ⟨he, hj, hc, hr⟩
  rw [Walk.read, Walk.read, hf]
  exact .done ⟨he, hj, hc, hr⟩

private theorem modify {f : State → State} (hf : State.Apart f) : (Walk.modify f).Twinned host l :=
  fun _ _ h ↦ .done (h.change hf)

private theorem changeAt {length : State → Nat} {place : Nat} {f : State → State}
    (hl : ∀ s exec context resources, length (s.rebase exec context resources) = length s)
    (hf : State.Apart f) : (Walk.changeAt length place f).Twinned host l := by
  rintro s _ ⟨he, hj, hc, hr⟩
  rw [Walk.changeAt, Walk.changeAt, hl]
  split
  · exact .done (State.Twin.change hf ⟨he, hj, hc, hr⟩)
  · exact .done ⟨he, hj, hc, hr⟩

private theorem ended {f : Resources → Ended α} (hf : Resources.LeavesStores f) :
    (Walk.ended f).Twinned host l := by
  rintro s _ ⟨he, hj, hc, hr⟩
  obtain ⟨ho, hr'⟩ := hf.linked hr
  rw [Walk.ended, Walk.ended, State.rebase]
  dsimp only
  rw [ho]
  exact .done (s := { s with resources := (f s.resources).2 }) ⟨he, hj, hc, hr'⟩

private theorem plain (p : Plain α) : (Walk.plain host p).Twinned host l := ended p.run_leavesStores

private theorem hold (v : Value) : (Walk.hold v).Twinned host l := ended fun _ _ ↦ rfl

private theorem newObject (o : Object) : (Walk.newObject o).Twinned host l := ended fun _ _ ↦ rfl

private theorem receive (channel : Nat) : (Walk.receive channel).Twinned host l := by
  apply ended
  intro r stores
  dsimp only [Resources.receive, Resources.queue]
  split
  · rfl
  · rfl

private theorem ask (task : Task) : (Walk.ask task).Twinned host l :=
  fun _ _ h ↦ .ask h fun _ _ _ hr ↦ .done hr

private theorem bind {f : α → Walk β} (hm : m.Twinned host l) (hf : ∀ a, (f a).Twinned host l) :
    (m >>= f).Twinned host l := by
  intro s t h
  rw [bind_run, bind_run]
  apply (hm s t h).bind
  intro o u v huv
  cases o with
  | ok a => exact hf a u v huv
  | error e => exact .done huv
  | panic message => exact .done huv

private theorem read_bind {f : State → α} {k : α → Walk β}
    (hf : ∀ s exec context resources, f (s.rebase exec context resources) = f s)
    (hk : ∀ a, (k a).Twinned host l) : (Walk.read f >>= k).Twinned host l :=
  bind (read hf) hk

private theorem modify_bind {f : State → State} {k : Unit → Walk β} (hf : State.Apart f)
    (hk : ∀ u, (k u).Twinned host l) : (Walk.modify f >>= k).Twinned host l :=
  bind (modify hf) hk

private theorem perform (task : Task) : (Walk.perform task).Twinned host l :=
  bind (ask task) fun _ ↦ pure ()

private theorem optional (nodes : Option (List Node)) (dot : Value) :
    (Walk.optional nodes dot).Twinned host l := by
  cases nodes with
  | none => exact pure ()
  | some nodes => exact perform _

private theorem attempt (hm : m.Twinned host l) : m.attempt.Twinned host l := by
  intro s t h
  apply (hm s t h).bind
  intro o u v huv
  cases o with
  | ok a => exact .done huv
  | error e => exact .done huv
  | panic message => exact .done huv

private theorem after {f : State → State} (hm : m.Twinned host l) (hf : State.Apart f) :
    (m.after f).Twinned host l :=
  bind (attempt hm) fun result ↦ modify_bind hf fun _ ↦ ofExcept result

private theorem mapError {f : State → EvalError → EvalError} (hm : m.Twinned host l)
    (hf : ∀ s t, s.Twin host l t → f s = f t) : (m.mapError f).Twinned host l := by
  intro s t h
  apply (hm s t h).bind
  intro o u v huv
  cases o with
  | ok a => exact .done huv
  | error e =>
    dsimp only
    rw [hf u v huv]
    exact .done huv
  | panic message => exact .done huv

private theorem inScope (hm : m.Twinned host l) : (Walk.inScope m).Twinned host l :=
  read_bind (fun _ _ _ _ ↦ rfl) fun _ ↦ after hm fun _ _ _ _ ↦ rfl

/-! ### Output -/

private theorem below (level : Nat) (nodes : List Node) (dot : Value) :
    (Walk.below level nodes dot).Twinned host l := by
  apply read_bind fun _ _ _ _ ↦ rfl
  intro saved
  apply modify_bind fun _ _ _ _ ↦ rfl
  intro _
  exact after (inScope (perform _)) fun _ _ _ _ ↦ rfl

private theorem sinkAt (n : Nat) : (Walk.sinkAt n).Twinned host l := by
  rintro s _ ⟨he, hj, hc, hr⟩
  rw [Walk.sinkAt, Walk.sinkAt]
  dsimp only [State.rebase]
  split
  · exact .done ⟨he, hj, hc, hr⟩
  · exact .done ⟨he, hj, hc, hr⟩

private theorem writeBottom (bytes : ByteArray) : (Walk.writeBottom bytes).Twinned host l := by
  rintro s _ ⟨he, hj, hc, hr⟩
  rw [Walk.writeBottom, Walk.writeBottom]
  dsimp only [State.rebase]
  split
  · exact .done (s := { s with writer := _ }) ⟨he, hj, hc, hr⟩
  · exact .done (s := { s with writer := _ }) ⟨he, hj, hc, hr⟩

private theorem writeLevel (level : Nat) (bytes : ByteArray) :
    (Walk.writeLevel level bytes).Twinned host l := by
  induction level generalizing bytes with
  | zero => exact writeBottom bytes
  | succ level ih =>
    apply bind (sinkAt level)
    intro sink
    split
    · exact modify fun _ _ _ _ ↦ rfl
    · split
      · exact ih bytes
      · apply modify_bind fun _ _ _ _ ↦ rfl
        intro _
        split
        · exact pure ()
        · split
          · exact bind (below level _ _) fun _ ↦ ih _
          · exact bind (pure ()) fun _ ↦ ih _

private theorem write (bytes : ByteArray) : (Walk.write bytes).Twinned host l := by
  rw [Walk.write]
  split
  · exact pure ()
  · exact read_bind (fun _ _ _ _ ↦ rfl) fun level ↦ writeLevel level bytes

private theorem capture {m : Walk Unit} (hm : m.Twinned host l) :
    (Walk.capture m).Twinned host l := by
  apply read_bind fun _ _ _ _ ↦ rfl
  intro level
  apply modify_bind fun _ _ _ _ ↦ rfl
  intro _
  apply bind (attempt hm)
  intro result
  apply modify_bind fun _ _ _ _ ↦ rfl
  intro _
  apply read_bind fun _ _ _ _ ↦ rfl
  intro bytes
  exact modify_bind (fun _ _ _ _ ↦ rfl) fun _ ↦ ofExcept _

private theorem wrap (strip : Bool) (body : List Node) (before after otherwise : Option (List Node))
    (dot : Value) : (Walk.wrap strip body before after otherwise dot).Twinned host l := by
  apply inScope
  apply read_bind fun _ _ _ _ ↦ rfl
  intro level
  apply modify_bind fun _ _ _ _ ↦ rfl
  intro _
  apply bind (attempt (perform _))
  intro result
  apply modify_bind fun _ _ _ _ ↦ rfl
  intro _
  apply read_bind fun _ _ _ _ ↦ rfl
  intro triggered
  apply modify_bind fun _ _ _ _ ↦ rfl
  intro _
  exact bind (ofExcept result) fun _ ↦ optional _ _

/-! ### Functions -/

/-- What a factory builds in contexts that the host confuses is the same. -/
theorem resolve (f : FuncValue) : (Walk.resolve host f).Twinned host l := by
  cases f with
  | direct f => exact pure f
  | contextBound id =>
    apply read_bind fun _ _ _ _ ↦ rfl
    intro found
    split
    · exact pure _
    · have hbuild : (Walk.read State.context >>= fun context ↦
          Walk.plain host (host.build id context)).Twinned host l := by
        rintro s _ ⟨he, hj, hc, hr⟩
        have h := plain (l := l) (host.build id s.context) s _ ⟨he, hj, hc, hr⟩
        rw [Walk.read_bind, Walk.read_bind]
        dsimp only [State.rebase]
        rwa [← hc.build id]
      apply bind (f := fun f ↦ do
        Walk.modify fun s ↦ { s with built := (id, f) :: s.built }
        return f) hbuild
      intro f
      exact modify_bind (fun _ _ _ _ ↦ rfl) fun _ ↦ pure f

/-- The renders that twins begin for another template start as twins. -/
theorem nestedState {s t : State} (h : s.Twin host l t) (template : Template) (data : Value) :
    (Walk.nestedState s template data).Twin host l (Walk.nestedState t template data) := by
  cases h with
  | @mk exec context resources he _ _ hr =>
    obtain ⟨hj, hr'⟩ := hr.newStore
    have hcontext (funcs : Scope FuncValue) (data : Value) :
        host.Confuses (.mk funcs data s.exec.options.payload)
          (.mk funcs data exec.options.payload) := by
      rw [he.options]
      exact host.confuses_self _
    have hexec := he.nested template (s.globals ++ s.vars) (s.depth + 1) s.step
    rw [Walk.nestedState, Walk.nestedState]
    dsimp only
    split
    · next inner funcs _ => exact .initial (hexec funcs _ _) hj (hcontext funcs inner) hr' _
    · exact .initial (hexec .empty _ _) hj (hcontext .empty data) hr' _

private theorem renderNested (name : String) (data : Value) :
    (Walk.renderNested name data).Twinned host l := by
  intro s t h
  rw [Walk.renderNested, Walk.renderNested, h.alike.callee]
  cases t.callee name with
  | error e => exact .done h
  | ok template =>
    have hstart := nestedState h template data
    have back {u v : State} (huv : u.Twin host l v) :
        State.Twin host l { s with resources := u.resources }
          { t with resources := v.resources } := by
      obtain ⟨he, hj, hc, -⟩ := h
      obtain ⟨-, -, -, hr⟩ := huv
      exact .mk (s := { s with resources := _ }) he hj hc hr
    have hname : s.template.name = t.template.name := by rw [h.alike.template]
    dsimp only
    rw [hname, hstart.alike.data]
    cases template.tree with
    | none => exact .done (back hstart)
    | some tree =>
      apply Run.Twins.ask hstart
      intro o u v huv
      cases o with
      | ok _ =>
        have hwriter : u.writer = v.writer := by
          obtain ⟨-, -, -, -⟩ := huv
          rfl
        dsimp only
        rw [hwriter]
        exact .done (back huv)
      | error e => exact .done (back huv)
      | panic message => exact .done (back huv)

private theorem runBlock (handle : Nat) (dot : Value) (args : List Value) (captured : Bool) :
    (Walk.runBlock handle dot args captured).Twinned host l := by
  rw [Walk.runBlock]
  split
  · exact capture (perform _)
  · exact bind (perform _) fun _ ↦ pure _

private theorem updateStore (update : Dict Value → Dict Value) :
    (Walk.modify fun s ↦
      { s with resources := s.resources.updateStore s.exec.store update }).Twinned host l := by
  rintro s _ ⟨he, hj, hc, hr⟩
  exact .done (.mk (s := { s with resources := _ }) he hj hc (hr.updateStore hj update))

/-- A program that goes on alike in contexts that the host confuses does the same from twins. -/
theorem program (p : Program α)
    (hp : ∀ c c', host.Confuses c c' → p.Confuses c c') : (Walk.program host p).Twinned host l := by
  induction p with
  | finish p => exact plain p
  | run p next ih => exact bind (attempt (plain p)) fun r ↦ ih r fun c c' h ↦ hp c c' h r
  | view next ih =>
    intro s t h
    have hview : next s.view = next t.view := by
      rw [h.view]
      exact (hp _ _ h.confuses).1 s.view
    show Run.Twins host l (Walk.program host (next s.view) s) (Walk.program host (next t.view) t)
    rw [← hview]
    exact ih s.view (fun c c' h ↦ (hp c c' h).2 s.view) s t h
  | newObject o next ih => exact bind (newObject o) fun v ↦ ih v fun c c' h ↦ hp c c' h v
  | receive channel next ih => exact bind (receive channel) fun v ↦ ih v fun c c' h ↦ hp c c' h v
  | updateStore update next ih => exact bind (updateStore update) fun _ ↦ ih hp
  | write text next ih => exact bind (attempt (write _)) fun r ↦ ih r fun c c' h ↦ hp c c' h r
  | callValue f args next ih => exact bind (attempt (ask _)) fun r ↦ ih r fun c c' h ↦ hp c c' h r
  | runBlock handle dot args captured next ih =>
    exact bind (attempt (runBlock _ _ _ _)) fun r ↦ ih r fun c c' h ↦ hp c c' h r
  | render template data next ih =>
    exact bind (attempt (renderNested _ _)) fun r ↦ ih _ fun c c' h ↦ hp c c' h _
  | yield template data next ih =>
    exact bind (attempt (bind (renderNested _ _) write)) fun r ↦ ih r fun c c' h ↦ hp c c' h r

private theorem functionProgram (f : Function) (args : List Value) :
    (Walk.program host (f.program host args)).Twinned host l :=
  program _ fun _ _ h ↦ f.program_confuses h args

private theorem callFunction (f : Function) (name : String) (args : List Value) :
    (Walk.callFunction host f name args).Twinned host l := by
  apply bind (ofExcept _)
  intro _
  apply read_bind fun _ _ _ _ ↦ rfl
  intro place
  apply bind (attempt (after (functionProgram f args) fun _ _ _ _ ↦ rfl))
  intro result
  cases result with
  | ok results => exact hold _
  | error e => exact fail _

private theorem callValue (f : Value) (args : List Value) :
    (Walk.callValue host f args).Twinned host l := by
  rw [Walk.callValue]
  split
  · apply bind (resolve _)
    intro f
    split
    · exact bind (functionProgram f args) fun _ ↦ hold _
    · exact fail _
  · exact fail _
  · exact fail _
  · exact fail _

end Walk.Twinned

/-! ### Tasks -/

namespace Walk

variable {m : Walk α} {dot : Value}

/-- What evaluation and walks are made of does the same from twins. -/
theorem Made.twinned (h : Made host m) : m.Twinned host l := by
  induction h with
  | pure a => exact .pure a
  | fail _ => exact .fail _
  | read hf => exact .see hf
  | find hf _ => exact .bind (.see hf) .ofExcept
  | hold v => exact .hold v
  | newObject o => exact .newObject o
  | receive channel => exact .receive channel
  | setVars _ => exact .modify fun _ _ _ _ ↦ rfl
  | setPlace => exact .modify fun _ _ _ _ ↦ rfl
  | resolve f => exact .resolve f
  | call f name args => exact .callFunction f name args
  | text s => exact .write _
  | nodes => exact .perform _
  | callback => exact .ask _
  | collect => exact .capture (.perform _)
  | wrap strip body before after otherwise dot => exact .wrap strip body before after otherwise dot
  | enter =>
    apply Twinned.modify_bind fun _ _ _ _ ↦ rfl
    intro _
    apply Twinned.read_bind fun _ _ _ _ ↦ rfl
    intro caller
    apply Twinned.modify_bind fun _ _ _ _ ↦ rfl
    intro _
    apply Twinned.mapError (.after (.perform _) fun _ _ _ _ ↦ rfl)
    rintro s _ ⟨-, -, -, -⟩
    rfl
  | bind _ _ ih ihf => exact .bind ih ihf
  | afterVars _ _ ih => exact .after ih fun _ _ _ _ ↦ rfl
  | located _ ih => exact .mapError ih fun s t h ↦ h.alike.locate

private theorem setVariable_twinned (place : Nat) (v : Value) :
    (setVariable place v).Twinned host l :=
  .changeAt (fun _ _ _ _ ↦ rfl) fun _ _ _ _ ↦ rfl

private theorem runBody_twinned (handle : Nat) (b : Block) :
    (runBody handle b dot).Twinned host l := by
  apply Twinned.read_bind fun _ _ _ _ ↦ rfl
  intro saved
  apply Twinned.bind (.after (.perform _) fun _ _ _ _ ↦ rfl)
  intro _
  apply Twinned.bind (.changeAt (fun _ _ _ _ ↦ rfl) fun _ _ _ _ ↦ rfl)
  intro _
  exact setVariable_twinned _ _

private theorem invokeBlock_twinned (handle : Nat) (args : List Value) :
    (invokeBlock handle dot args).Twinned host l := by
  apply Twinned.read_bind fun _ _ _ _ ↦ rfl
  intro found
  split
  · exact .fail _
  · apply Twinned.bind (.hold _)
    intro list
    apply Twinned.bind (setVariable_twinned _ _)
    intro _
    apply Twinned.bind (setVariable_twinned _ _)
    intro _
    exact runBody_twinned _ _

private theorem callWithBlock_twinned (call : Command) (body : List Node) :
    (callWithBlock host call body dot).Twinned host l := by
  apply Twinned.read_bind fun _ _ _ _ ↦ rfl
  intro handle
  apply Twinned.modify_bind fun _ _ _ _ ↦ rfl
  intro _
  exact .after (blockCall_evalWith_made handle call).twinned fun _ _ _ _ ↦ rfl

/-- Every task does the same from twins. -/
theorem start_twinned (task : Task) : (start host task).Twinned host l := by
  cases task with
  | walk nodes | enter nodes | render nodes =>
    exact .bind (each_made nodes).twinned fun _ ↦ .pure _
  | call f args => exact .callValue f args
  | invoke handle dot args => exact .bind (invokeBlock_twinned handle args) fun _ ↦ .pure _
  | callback call body => exact callWithBlock_twinned call body

end Walk

/-! ### The loop -/

/-- Runs end alike: in the same way, and in twins. -/
def Reply.Twin (host : Host) (l : Link) (x y : Reply) : Prop := x.1 = y.1 ∧ x.2.Twin host l y.2

/-- The loop does the same with runs that do the same, and takes as many steps. -/
theorem Run.Twins.loop {budget : Nat} {x y : Run Reply} (h : x.Twins host l y)
    {waiting waiting' : List (Reply → Run Reply)}
    (hw : List.Forall₂ (fun f g ↦ ∀ o u v, u.Twin host l v →
      Run.Twins host l (f (o, u)) (g (o, v))) waiting waiting') :
    Option.Rel (Reply.Twin host l) (Run.loop (Walk.start host) budget x waiting)
      (Run.loop (Walk.start host) budget y waiting') := by
  induction budget generalizing x y waiting waiting' with
  | zero => exact .none
  | succ budget ih =>
    cases h with
    | done h =>
      cases hw with
      | nil => exact .some ⟨rfl, h⟩
      | cons hf hrest => exact ih (hf _ _ _ h) hrest
    | ask h hn => exact ih (Walk.start_twinned _ _ _ h) (.cons hn hw)

/-- Walks from twins do the same. -/
theorem Walk.run_twins (budget : Nat) (nodes : List Node) (dot : Value) {s t : State}
    (h : s.Twin host l t) :
    Option.Rel (Reply.Twin host l) (Walk.run host budget nodes dot s)
      (Walk.run host budget nodes dot t) :=
  (Walk.start_twinned _ s t h).loop .nil

end TextTemplate
