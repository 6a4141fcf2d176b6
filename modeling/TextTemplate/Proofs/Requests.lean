import TextTemplate.Proofs.Level

/-!
# What evaluation asks for

The expressions of a template, and the functions that they call, ask for four kinds of tasks: calls
of function values, bodies of callback blocks, the nodes before the content of a wrap, and other
renders. Whatever they ask for and get, they return at the level at which they began.
-/

set_option autoImplicit false

namespace TextTemplate

variable {α β : Type} {host : Host} {calls : Value → List Value → Prop}

/-- What the evaluation of expressions in a state may ask for, where only some function values are
called. -/
inductive State.Requests (host : Host) (calls : Value → List Value → Prop) (s : State) :
    Task → State → Prop where
  | call {f : Value} {args : List Value} {u : State} :
      calls f args → Level host s u → Requests host calls s (.call f args) u
  | invoke {handle : Nat} {dot : Value} {args : List Value} {u : State} :
      Level host s u → Requests host calls s (.invoke handle dot args) u
  | capture {handle : Nat} {dot : Value} {args : List Value} {u : State} :
      Level host (s.pushSink (.buffer .empty)) u →
        Requests host calls s (.invoke handle dot args) u
  | before {n : Nat} {w : WrapSink} {nodes : List Node} {u : State} :
      Stack.get? s.sinks n = some (.wrap w) → w.before = some nodes →
        Level host (s.truncateSinks n) u →
          Requests host calls s (.walk nodes w.dot) u
  | render {name : String} {template : Template} {tree : Tree} {data : Value} {u : State} :
      s.callee name = .ok template → template.tree = some tree → Level host s u →
        Requests host calls s (.render tree.root (Walk.nestedState u template data).data)
          (Walk.nestedState u template data)

/-- From a state at the level of another one, no more may be asked for. -/
theorem State.Requests.mono {s t : State} {task : Task} {u : State} (h : Level host s t)
    (hr : t.Requests host calls task u) : s.Requests host calls task u := by
  cases hr with
  | call hc hu => exact .call hc (h.trans hu)
  | invoke hu => exact .invoke (h.trans hu)
  | capture hu => exact .capture ((h.pushSink _).trans hu)
  | before hw hb hu =>
    obtain ⟨x, hx, hxb, hxd⟩ := h.wrapAt hw
    exact hxd ▸ .before hx (hxb.trans hb) ((h.truncateSinks _).trans hu)
  | render hc ht hu => exact .render ((h.callee _).symm.trans hc) ht (h.trans hu)

/-- A function that a registered one may be resolved to from a state. -/
def FuncValue.Resolves (host : Host) (s : State) : FuncValue → Function → Prop
  | .direct f, g => f = g
  | .contextBound id, g => (id, g) ∈ s.built ∨ host.Builds id g

/-- What is known of the reply to a task that was asked for in a state. -/
abbrev Answers (host : Host) (s : State) (r : Reply) : Prop := Leaves host (Level host s) r

/-- A step of evaluation: from any state it asks for what evaluation may ask for, and returns at
the level of that state. -/
def Walk.Calm (host : Host) (calls : Value → List Value → Prop) (m : Walk α) : Prop :=
  ∀ s, m.Keeps host (s.Requests host calls) (Answers host) (Level host s)

namespace Walk

variable {asks : Task → State → Prop} {s : State} {m : Walk α}

/-! ### Steps that keep a level -/

/-- A task that may be asked for is performed and leaves a state at the level of this one. -/
theorem perform_meets {task : Task} (h : asks task s) :
    (perform task s).Meets asks (Answers host) (Leaves host (Level host s)) := by
  refine ⟨h, ?_⟩
  intro r hr
  obtain ⟨outcome, v⟩ := r
  cases outcome with
  | ok a => exact hr
  | error e => exact hr
  | panic message => exact hr

/-- What is kept from a state at a level on, is kept from the level on. -/
theorem meets_trans {x : Run (Outcome α × State)} {u : State} (hu : Level host s u)
    (h : x.Meets asks (Answers host) (Leaves host (Level host u))) :
    x.Meets asks (Answers host) (Leaves host (Level host s)) := by
  apply h.mono (fun _ _ h ↦ h)
  intro r hr
  exact hr.mono fun _ hv ↦ hu.trans hv

namespace Keeps

/-- A task that may be asked for in all states at a level is performed at this level. -/
theorem perform {task : Task} (h : ∀ u, Level host s u → asks task u) :
    (perform task).Keeps host asks (Answers host) (Level host s) := by
  intro u hu
  exact meets_trans hu (perform_meets (h u hu))

/-- A task that may be asked for in all states at a level is asked for at this level. -/
theorem ask {task : Task} (h : ∀ u, Level host s u → asks task u) :
    (ask task).Keeps host asks (Answers host) (Level host s) := by
  intro u hu
  refine ⟨h u hu, ?_⟩
  intro r hr
  exact hr.mono fun _ hv ↦ hu.trans hv

/-- A step that uses resources and does not panic. -/
theorem effect {f : Resources → Ended α} (h : ∀ r message, (f r).1 ≠ .panic message) :
    (Walk.ended f).Keeps host asks (Answers host) (Level host s) := by
  apply ended (fun _ r hu ↦ hu.withResources r)
  intro r message hp
  exact absurd hp (h r message)

private theorem hold (v : Value) : (Walk.hold v).Keeps host asks (Answers host) (Level host s) :=
  effect fun _ _ h ↦ nomatch h

/-- Making an object keeps the level. -/
theorem newObject (o : Object) :
    (Walk.newObject o).Keeps host asks (Answers host) (Level host s) :=
  effect fun _ _ h ↦ nomatch h

/-- Taking an item out of a channel keeps the level. -/
theorem receive (channel : Nat) :
    (Walk.receive channel).Keeps host asks (Answers host) (Level host s) :=
  effect fun _ _ h ↦ nomatch h

private theorem plain {p : Plain α} (hp : p.Within host) :
    (Walk.plain host p).Keeps host asks (Answers host) (Level host s) := by
  apply ended (fun _ r hu ↦ hu.withResources r)
  intro r message h
  exact p.run_panics hp h

/-- Going to a place keeps the level. -/
theorem setPlace (span : Span) (subject : Subject) :
    (setPlace span subject).Keeps host asks (Answers host) (Level host s) :=
  modify fun _ hu ↦ hu.withPlace _

private theorem inScope (hm : m.Keeps host asks (Answers host) (Level host s)) :
    (inScope m).Keeps host asks (Answers host) (Level host s) := by
  apply read_bind
  intro u hu
  apply hm.after
  intro v hv
  exact hv.takeVars hu.length_vars

/-- A step with a sink of its own, and what takes the sink off again. -/
theorem withSink {sink : Sink} {m : Walk β} {k : Except EvalError β → Walk α}
    (hm : m.Keeps host asks (Answers host) (Level host (s.pushSink sink)))
    (hk : ∀ result v, Level host (s.pushSink sink) v →
      (k result v).Meets asks (Answers host) (Leaves host (Level host s))) :
    Keeps host asks (Answers host) (Level host s) (do
      let level ← Walk.read fun s ↦ s.sinks.length
      Walk.modify fun s ↦ { s with sinks := sink :: s.sinks }
      let result ← m.attempt
      Walk.modify (State.truncateSinks (level + 1))
      k result) := by
  intro u hu
  have kept {v : State} (hv : Level host (s.pushSink sink) v) :
      v.truncateSinks (u.sinks.length + 1) = v :=
    hv.truncateSinks_self (Nat.succ_le_succ (Nat.le_of_eq hu.length_sinks.symm))
  refine meets_attempt (hm _ (hu.pushSink sink)) ?_ ?_ ?_
  · intro a v hv
    rw [modify_bind, kept hv]
    exact hk (.ok a) v hv
  · intro e v hv
    rw [modify_bind, kept hv]
    exact hk (.error e) v hv
  · exact fun _ _ hv ↦ hv

/-- A capture keeps the level if what it captures does so with a buffer on top. -/
theorem capture {m : Walk Unit}
    (hm : m.Keeps host asks (Answers host) (Level host (s.pushSink (.buffer .empty)))) :
    (capture m).Keeps host asks (Answers host) (Level host s) :=
  withSink hm fun _ _ hv ↦ ofExcept _ _ hv.popBuffer

end Keeps

/-! ### Writing -/

private theorem writeBottom_keeps (bytes : ByteArray) :
    (writeBottom bytes).Keeps host asks (Answers host) (Level host s) := by
  intro u hu
  simp only [writeBottom]
  split
  · exact hu.withWriter _
  · exact hu.withWriter _

/-- A beginning that is walked below its wrap is asked for as it is allowed to, and keeps the
level. -/
theorem below_meets {u : State} {n : Nat} {w : WrapSink} {nodes : List Node} {dot : Value}
    (hu : Level host s u) (hw : Stack.get? u.sinks n = some (.wrap w))
    (hb : w.before = some nodes) (hd : w.dot = dot) :
    (below n nodes dot u).Meets (s.Requests host calls) (Answers host)
      (Leaves host (Level host s)) := by
  obtain ⟨x, hx, hxb, hxd⟩ := hu.wrapAt hw
  have asked (v : State) (hv : Level host (u.truncateSinks n) v) :
      s.Requests host calls (.walk nodes dot) v :=
    hxd.trans hd ▸ .before hx (hxb.trans hb) ((hu.truncateSinks n).trans hv)
  apply meets_after (Keeps.inScope (Keeps.perform asked) _ (.refl _))
  intro v hv
  exact hu.trans (hv.restoreSinks.withPlace _)

/-- A level that is not above the stack of sinks can be written at. -/
theorem writeLevel_meets {level : Nat} (bytes : ByteArray) {u : State} (hu : Level host s u)
    (hl : level ≤ s.sinks.length) :
    (writeLevel level bytes u).Meets (s.Requests host calls) (Answers host)
      (Leaves host (Level host s)) := by
  induction level generalizing bytes u with
  | zero => exact writeBottom_keeps bytes u hu
  | succ level ih =>
    have hl' : level < u.sinks.length := by
      rw [hu.length_sinks]
      exact hl
    obtain ⟨sink, hsink⟩ := Stack.get?_of_lt hl'
    rw [writeLevel, bind_run, sinkAt, hsink]
    cases sink with
    | buffer held =>
      exact hu.withSinks (Stack.map_modify fun sink _ ↦ Sink.fresh_append bytes sink)
    | wrap w =>
      simp only [Run.bind]
      split
      · exact ih bytes hu (Nat.le_of_succ_le hl)
      · have hv : Level host s { u with
            sinks := Stack.modify u.sinks level fun _ ↦ .wrap (w.receive bytes).1 } := by
          apply hu.withSinks
          apply Stack.map_modify
          intro sink h
          cases hsink.symm.trans h
          exact w.fresh_receive bytes
        rw [modify_bind]
        cases (w.receive bytes).2 with
        | none => exact hv
        | some content =>
          cases hb : w.before with
          | none => exact ih _ hv (Nat.le_of_succ_le hl)
          | some nodes =>
            have hbefore := (w.receive_before bytes).trans hb
            refine meets_bind (below_meets hv (Stack.get?_modify_self hsink) hbefore
              (w.receive_dot bytes)) ?_ (fun _ _ hv ↦ hv) fun _ _ hv ↦ hv
            intro _ v hv
            exact ih _ hv (Nat.le_of_succ_le hl)

/-- Writing is calm. -/
theorem write_calm (bytes : ByteArray) : (write bytes).Calm host calls := by
  intro s
  rw [write]
  split
  · exact Keeps.pure _
  · exact fun u hu ↦ writeLevel_meets bytes hu (Nat.le_of_eq hu.length_sinks)

private theorem runBlock_calm (handle : Nat) (dot : Value) (args : List Value) (captured : Bool) :
    (runBlock handle dot args captured).Calm host calls := by
  intro s
  rw [runBlock]
  split
  · apply Keeps.capture
    apply Keeps.perform
    intro u hu
    exact .capture hu
  · apply Keeps.bind
    · apply Keeps.perform
      intro u hu
      exact .invoke hu
    · intro _
      exact Keeps.pure _

/-! ### Other renders -/

private theorem renderNested_calm (name : String) (data : Value) :
    (renderNested name data).Calm host calls := by
  intro s u hu
  rw [renderNested]
  split
  · exact hu
  · next template hc =>
    have hc := (hu.callee name).symm.trans hc
    dsimp only
    split
    · exact hu.withResources _
    · next tree ht =>
      refine ⟨.render hc ht hu, ?_⟩
      intro r hr
      obtain ⟨outcome, inner⟩ := r
      cases outcome with
      | ok _ => exact hu.withResources _
      | error _ => exact hu.withResources _
      | panic _ => exact hr

/-! ### Functions -/

/-- What a registered function is resolved to is itself, or was built by a factory. -/
theorem resolve_meets {u : State} (hu : Level host s u) (f : FuncValue) :
    (resolve host f u).Meets asks (Answers host)
      fun r ↦ Leaves host (Level host s) r ∧ ∀ g, r.1 = .ok g → f.Resolves host s g := by
  cases f with
  | direct f =>
    refine ⟨hu, ?_⟩
    intro g hg
    cases hg
    rfl
  | contextBound id =>
    rw [resolve, read_bind]
    cases hl : u.built.lookup id with
    | some f =>
      refine ⟨hu, ?_⟩
      intro g hg
      cases hg
      exact hu.built (id, f) (mem_of_lookup_eq_some hl)
    | none =>
      dsimp only
      rw [read_bind, bind_run, plain, ended]
      cases hr : (host.build id u.context).run host u.resources with
      | mk outcome r =>
        have hv := hu.withResources r
        cases outcome with
        | ok f =>
          have hf : host.Builds id f := ⟨u.context, u.resources, r, hr⟩
          refine ⟨hv.withBuilt hf, ?_⟩
          intro g hg
          cases hg
          exact .inr hf
        | error e => exact ⟨hv, fun g hg ↦ by cases hg⟩
        | panic message =>
          have hp : (host.build id u.context).Within host := fun m h ↦ .inl (.build _ _ h)
          exact ⟨Plain.run_panics hp (by rw [hr]), fun g hg ↦ by cases hg⟩

private theorem resolve_calm (f : FuncValue) : (resolve host f).Calm host calls := by
  intro s u hu
  apply (resolve_meets hu f).mono (fun _ _ h ↦ h)
  intro r hr
  exact hr.1

/-! ### Steps of evaluation -/

namespace Calm

/-- Giving a value is calm. -/
theorem pure (a : α) : (Pure.pure a : Walk α).Calm host calls := fun _ ↦ Keeps.pure a

private theorem fail (e : EvalError) :
    (Walk.fail e : Walk α).Calm host calls :=
  fun _ ↦ Keeps.fail e

private theorem ofExcept (x : Except EvalError α) : (Walk.ofExcept x).Calm host calls :=
  fun _ ↦ Keeps.ofExcept x

private theorem hold (v : Value) : (Walk.hold v).Calm host calls := fun _ ↦ Keeps.hold v

private theorem setPlace (span : Span) (subject : Subject) :
    (setPlace span subject).Calm host calls :=
  fun _ ↦ Keeps.setPlace span subject

private theorem read_bind {f : State → α} {k : α → Walk β} (h : ∀ a, (k a).Calm host calls) :
    (Walk.read f >>= k).Calm host calls :=
  fun s ↦ Keeps.read_bind fun u _ ↦ h (f u) s

private theorem bind {f : α → Walk β} (hm : m.Calm host calls) (hf : ∀ a, (f a).Calm host calls) :
    (m >>= f).Calm host calls :=
  fun s ↦ Keeps.bind (hm s) fun a ↦ hf a s

private theorem attempt (hm : m.Calm host calls) : m.attempt.Calm host calls :=
  fun s ↦ Keeps.attempt (hm s)

end Calm

/-! ### Calls -/

/-- A program asks for the calls of the function values that it calls. -/
theorem program_calm (p : Program α) (hp : p.Within host calls) :
    (program host p).Calm host calls := by
  induction p with
  | finish p => exact fun _ ↦ Keeps.plain hp
  | run p next ih =>
    have hplain : (Walk.plain host p).Calm host calls := fun _ ↦ Keeps.plain hp.1
    apply Calm.bind hplain.attempt
    intro x
    exact ih x (hp.2 x)
  | view next ih =>
    apply Calm.read_bind
    intro view
    exact ih view (hp view)
  | newObject o next ih =>
    apply Calm.bind fun _ ↦ Keeps.newObject o
    intro v
    exact ih v (hp v)
  | receive channel next ih =>
    apply Calm.bind fun _ ↦ Keeps.receive channel
    intro v
    exact ih v (hp v)
  | updateStore update next ih =>
    apply Calm.bind fun _ ↦ Keeps.modify fun _ hu ↦ hu.withResources _
    intro _
    exact ih hp
  | write text next ih =>
    apply Calm.bind (write_calm _).attempt
    intro x
    exact ih x (hp x)
  | callValue f args next ih =>
    have hcall : (Walk.ask (.call f args)).Calm host calls :=
      fun _ ↦ Keeps.ask fun _ hu ↦ .call hp.1 hu
    apply Calm.bind hcall.attempt
    intro x
    exact ih x (hp.2 x)
  | runBlock handle dot args captured next ih =>
    apply Calm.bind (runBlock_calm handle dot args captured).attempt
    intro x
    exact ih x (hp x)
  | render template data next ih =>
    apply Calm.bind (renderNested_calm template _).attempt
    intro x
    exact ih _ (hp _)
  | yield template data next ih =>
    have hyield : (do write (← renderNested template (data.getD .invalid))).Calm host calls :=
      Calm.bind (renderNested_calm template _) fun bytes ↦ write_calm bytes
    apply Calm.bind hyield.attempt
    intro x
    exact ih x (hp x)

private theorem callFunction_calm (f : Function) (name : String) (args : List Value) :
    (callFunction host f name args).Calm host anyCall := by
  intro s
  apply Keeps.ofExcept_bind
  intro _ hc
  have hp : (program host (f.program host args)).Calm host anyCall :=
    program_calm _ (Function.program_within (Function.accepts_of_checkArity hc))
  apply Keeps.read_bind
  intro u _
  apply Keeps.bind (Keeps.attempt (Keeps.after (hp s) fun _ hv ↦ hv.withPlace _))
  intro result
  cases result with
  | ok results => exact Keeps.hold _
  | error e => exact Keeps.fail _

/-- The call of a function value asks for the calls that the function makes. -/
theorem callValue_keeps {f : Value} {args : List Value}
    (hf : ∀ value g, f.indirect = .func value → value.Resolves host s g →
      g.arity.accepts args.length = true → (g.program host args).Within host calls) :
    (callValue host f args).Keeps host (s.Requests host calls) (Answers host)
      (Level host s) := by
  rw [callValue]
  split
  · next value hv =>
    intro u hu
    refine meets_bind (resolve_meets hu value) ?_ (fun _ _ h ↦ h.1) fun _ _ h ↦ h.1
    intro g v hg
    split
    · next ha =>
      have hp : (program host (g.program host args)).Calm host calls :=
        program_calm _ (hf value g hv (hg.2 g rfl) ha)
      exact Calm.bind hp (fun _ ↦ Calm.hold _) s v hg.1
    · exact Keeps.fail _ v hg.1
  · exact Keeps.fail _
  · exact Keeps.fail _
  · exact Keeps.fail _

/-! ### Expressions -/

private theorem assign_calm (name : String) (value : Value) :
    (assign name value).Calm host calls := by
  intro s
  apply Keeps.read_bind
  intro u hu
  split
  · next vars hv =>
    have hnames : s.vars.names <+: vars.names := by
      rw [Bindings.names_assign hv]
      exact hu.names
    exact Keeps.modify fun _ hw ↦ hw.withVars hnames
  · exact Keeps.fail _

private theorem declare_calm (value : Value) (d : Declaration) :
    (declare value d).Calm host calls := by
  rw [declare]
  split
  · intro s
    apply Keeps.modify
    intro u hu
    apply hu.withVars
    rw [Bindings.names_append]
    exact hu.names.trans (List.prefix_append ..)
  · exact assign_calm _ value
  · apply Calm.read_bind
    intro vars
    split
    · apply Calm.bind (.ofExcept _)
      intro result
      apply Calm.bind (.hold result)
      intro v
      exact assign_calm _ v
    · exact Calm.fail _

private theorem declareAll_calm (value : Value) (ds : List Declaration) :
    (declareAll value ds).Calm host calls := by
  induction ds with
  | nil => exact .pure ()
  | cons d rest ih => exact Calm.bind (declare_calm value d) fun _ ↦ ih

private theorem values_calm {args : List (Walk Value)} (h : ∀ m ∈ args, m.Calm host calls) :
    (values args).Calm host calls := by
  induction args with
  | nil => exact .pure []
  | cons m rest ih =>
    rw [List.forall_mem_cons] at h
    apply Calm.bind h.1
    intro v
    exact Calm.bind (ih h.2) fun _ ↦ .pure _

private theorem noArguments_calm (subject : String) (args : List (Walk Value)) (last : Value) :
    (noArguments subject args last).Calm host calls := by
  rw [noArguments]
  split
  · exact Calm.pure ()
  · exact Calm.fail _

variable {args : List (Walk Value)} (h : ∀ m ∈ args, m.Calm host anyCall)
include h

private theorem call_calm (f : Function) (name : String) (last : Value) :
    (call host f name args last).Calm host anyCall := by
  apply Calm.bind (.ofExcept _)
  intro _
  apply Calm.bind (values_calm h)
  intro vs
  exact callFunction_calm f name _

private theorem callNamed_calm (name : String) (last : Value) :
    (callNamed host name args last).Calm host anyCall := by
  unfold callNamed
  apply Calm.read_bind
  intro found
  split
  · exact Calm.bind (resolve_calm _) fun f ↦ call_calm h f name last
  · exact Calm.fail _

/-- Looking up a member is calm. -/
theorem member_calm (receiver : Value) (name : String) (optional : Bool) (last : Value) :
    (member host receiver name optional args last).Calm host anyCall := by
  unfold member
  apply Calm.read_bind
  intro found
  split
  · exact Calm.pure _
  · split
    · exact Calm.pure _
    · exact Calm.fail _
  · exact Calm.bind (resolve_calm _) fun f ↦ call_calm h f name last
  · exact Calm.fail _

private theorem path_calm (optional : Bool) (last receiver : Value) (names : List String) :
    (path host optional args last receiver names).Calm host anyCall := by
  induction names generalizing receiver with
  | nil => exact Calm.pure receiver
  | cons name rest ih =>
    cases rest with
    | nil => exact member_calm h receiver name optional last
    | cons next rest =>
      apply Calm.bind (member_calm (List.forall_mem_nil _) receiver name optional _)
      intro v
      exact ih v

private theorem identifier_calm (name : String) (last : Value) :
    (identifier host name args last).Calm host anyCall := by
  unfold identifier
  split
  · exact fun _ ↦ Keeps.read _
  · exact Calm.read_bind fun _ ↦ .ofExcept _
  · exact callNamed_calm h name last

end Walk

section Evaluation

open Walk

variable {dot : Value}

mutual

private theorem Operand.eval_calm (o : Operand) {args : List (Walk Value)} {last : Value}
    (h : ∀ m ∈ args, m.Calm host anyCall) : (o.eval host dot args last).Calm host anyCall := by
  cases o with
  | mk span form =>
    rw [Operand.eval]
    exact Calm.bind (.setPlace _ _) fun _ ↦ form.eval_calm span h
termination_by structural o

private theorem OperandForm.eval_calm (f : OperandForm) (span : Span) {args : List (Walk Value)}
    {last : Value} (h : ∀ m ∈ args, m.Calm host anyCall) :
    (f.eval host dot span args last).Calm host anyCall := by
  -- a constant takes no arguments
  have constant (subject : String) {m : Walk Value} (hm : m.Calm host anyCall) :
      (do noArguments subject args last; m).Calm host anyCall :=
    Calm.bind (noArguments_calm subject args last) fun _ ↦ hm
  cases f with
  | field path optional =>
    rw [OperandForm.eval]
    exact path_calm h optional last dot path
  | chain base path =>
    rw [OperandForm.eval]
    apply Calm.bind base.argument_calm
    intro receiver
    apply Calm.bind (.setPlace _ _)
    intro _
    exact path_calm h false last receiver path
  | identifier name =>
    rw [OperandForm.eval]
    exact identifier_calm h name last
  | «variable» name path =>
    rw [OperandForm.eval]
    apply Calm.read_bind
    intro found
    apply Calm.bind (.ofExcept _)
    intro value
    split
    · exact constant _ (.pure _)
    · exact path_calm h false last value path
  | dot =>
    rw [OperandForm.eval]
    exact constant _ (.pure _)
  | nil =>
    rw [OperandForm.eval]
    exact constant _ (.pure _)
  | bool b =>
    rw [OperandForm.eval]
    exact constant _ (.pure _)
  | number n =>
    rw [OperandForm.eval]
    exact constant _ (.ofExcept _)
  | text t =>
    rw [OperandForm.eval]
    exact constant _ (.pure _)
  | pipe p =>
    rw [OperandForm.eval]
    exact p.eval_calm
  | expr op lhs rhs =>
    rw [OperandForm.eval]
    apply Calm.bind (lhs.eval_calm last)
    intro l
    apply Calm.bind (rhs.eval_calm last)
    intro r
    apply Calm.bind (.setPlace _ _)
    intro _
    exact Calm.bind (.ofExcept _) fun v ↦ .hold v
termination_by structural f

/-- The evaluation of an argument is calm. -/
theorem Operand.argument_calm (o : Operand) : (o.argument host dot).Calm host anyCall := by
  cases o with
  | mk span form =>
    have h : Walk.Calm host anyCall (do
        setPlace span (.operand (.mk span form))
        form.eval host dot span [] .invalid) :=
      Calm.bind (.setPlace _ _) fun _ ↦ form.eval_calm span (List.forall_mem_nil _)
    cases form with
    | nil => exact Calm.pure _
    | _ => exact h
termination_by structural o

/-- The evaluation of each argument is calm. -/
theorem Operand.arguments_calm (os : List Operand) :
    ∀ m ∈ Operand.arguments host dot os, m.Calm host anyCall := by
  cases os with
  | nil => exact List.forall_mem_nil _
  | cons o rest => exact List.forall_mem_cons.mpr ⟨o.argument_calm, Operand.arguments_calm rest⟩
termination_by structural os

/-- The evaluation of a command is calm. -/
theorem Command.eval_calm (c : Command) (last : Value) :
    (c.eval host dot last).Calm host anyCall := by
  cases c with
  | mk span operands =>
    cases operands with
    | nil => exact Calm.fail _
    | cons word args => exact word.eval_calm (Operand.arguments_calm args)
termination_by structural c

private theorem Command.evalAll_calm (cs : List Command) (last : Value) :
    (Command.evalAll host dot cs last).Calm host anyCall := by
  cases cs with
  | nil => exact Calm.pure _
  | cons c rest => exact Calm.bind (c.eval_calm last) fun v ↦ Command.evalAll_calm rest v
termination_by structural cs

/-- The evaluation of a pipeline is calm. -/
theorem Pipe.eval_calm (p : Pipe) : (p.eval host dot).Calm host anyCall := by
  cases p with
  | mk span declarations commands trimRight =>
    rw [Pipe.eval]
    apply Calm.bind (.setPlace _ _)
    intro _
    apply Calm.bind (Command.evalAll_calm commands _)
    intro value
    exact Calm.bind (declareAll_calm value declarations) fun _ ↦ .pure _
termination_by structural p

end

/-- The evaluation of a command is calm if that of its other arguments is. -/
theorem Command.evalWith_calm {args : List (Walk Value)}
    (h : ∀ m ∈ args, m.Calm host anyCall) (c : Command) :
    (c.evalWith host dot args).Calm host anyCall := by
  rw [Command.evalWith]
  split
  · exact Calm.fail _
  · exact Operand.eval_calm _ h

namespace Walk

private theorem printPlain_calm (pipe : Pipe) (value : Value) :
    (printPlain pipe value).Calm host calls := by
  rw [printPlain]
  split
  · exact Calm.fail _
  · exact Calm.fail _
  · exact Calm.fail _
  · exact write_calm _

/-- Printing a value is calm. -/
theorem printValue_calm (pipe : Pipe) (value : Value) :
    (printValue host pipe value).Calm host anyCall := by
  unfold printValue
  split
  · apply Calm.bind (resolve_calm _)
    intro f
    apply Calm.bind (callFunction_calm f _ _)
    intro v
    exact printPlain_calm pipe v
  · exact printPlain_calm pipe _

/-- Printing the result of a pipeline is calm. -/
theorem printResult_calm (pipe : Pipe) (value : Value) :
    (printResult host pipe value).Calm host anyCall := by
  rw [printResult]
  split
  · exact Calm.pure _
  · exact printValue_calm pipe value

/-- The call that has a block is calm. -/
theorem blockCall_calm (pipe : Pipe) : (blockCall host pipe dot).Calm host anyCall := by
  apply Calm.bind (.setPlace _ _)
  intro _
  split
  · exact Calm.fail _
  · split
    · exact Calm.pure _
    · exact Calm.bind (Command.evalAll_calm _ _) fun _ ↦ .pure _

/-- The evaluation of the arguments of a call is calm. -/
theorem callArguments_calm (pipe : Option Pipe) :
    (callArguments host pipe dot).Calm host anyCall := by
  unfold callArguments
  split
  · exact Calm.pure _
  · split
    · apply Calm.bind (Operand.argument_calm _)
      intro newDot
      apply Calm.bind (declareAll_calm _ _)
      intro _
      exact Calm.bind (values_calm (Operand.arguments_calm _)) fun _ ↦ .pure _
    · exact Calm.bind (Pipe.eval_calm _) fun _ ↦ .pure _

end Walk

end Evaluation

end TextTemplate
