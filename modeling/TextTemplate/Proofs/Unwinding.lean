import TextTemplate.Proofs.Coverage
import TextTemplate.Proofs.Depth
import TextTemplate.Proofs.Isolation
import TextTemplate.Proofs.Origin

/-!
# How errors leave tasks

An error that may not be replaced leaves the task that failed with it for the one that asked for it,
and records a call where it leaves a template that was called or rendered by a function
(`Walk.Traces.leaves`). A task that received no such error fails with an error as it was created,
which has no calls recorded (`Walk.Traces.origin`).
-/

set_option autoImplicit false

namespace TextTemplate

variable {α β : Type} {host : Host}

/-! ### What a task does with the errors of others -/

/-- A task fails with an error. -/
def Request.Fails (host : Host) (r : Request) (e : EvalError) : Prop :=
  (⟨Walk.start host r.1, r.2⟩ : Act).Fails host e

/-- What an error records when it leaves a task: the name of the template that was called, or the
names of the template that rendered another one and of that one. -/
inductive Request.Records : Request → List String → Prop where
  | enter {nodes : List Node} {dot : Value} {u : State} {span at_ : Span} {name : String}
      {pipe : Option Pipe} :
      u.place = some (span, .node (.template at_ name pipe)) →
        Records (.enter nodes dot, u) [name]
  | render {nodes : List Node} {dot : Value} {u : State} {path : List Step} {caller : Step}
      {name : String} :
      u.exec.superPath = path ++ [caller] → u.exec.set.lookup name = some u.template →
        Records (.render nodes dot, u) [caller.template ++ "/" ++ name]
  | other {task : Task} {u : State} : task.opens = false → Records (task, u) []

/-- An error leaves calls as another one, which records their names after those that it had. -/
structure EvalError.Leaves (names : List String) (y x : EvalError) : Prop where
  passes : y.PassesTo x
  backtrace : x.backtrace.map Frame.name = y.backtrace.map Frame.name ++ names

namespace EvalError.Leaves

variable {names names' : List String} {a b c : EvalError}

/-- An error leaves no call as itself. -/
theorem refl (e : EvalError) : Leaves [] e e := ⟨.refl e, (List.append_nil _).symm⟩

/-- Calls are left one after the other. -/
theorem trans (h : Leaves names a b) (k : Leaves names' b c) : Leaves (names ++ names') a c where
  passes := h.passes.trans k.passes
  backtrace := by rw [k.backtrace, h.backtrace, List.append_assoc]

private theorem withFrame (e : EvalError) (name : String) (location : Option String) :
    Leaves [name] e (e.withFrame name location) where
  passes := .withFrame ..
  backtrace := by
    rw [EvalError.backtrace, EvalError.withFrame, List.reverse_cons, List.map_append]
    rfl

private theorem locate (s : State) (e : EvalError) : Leaves [] e (s.locate e) where
  passes := .locate s e
  backtrace := by
    rw [State.locate, List.append_nil]
    split
    · rfl
    · rfl

end EvalError.Leaves

/-- Whether a function asks for a task, in a call that replaces what errors it can. -/
def Task.isReplacing : Task → Bool
  | .call .. | .invoke .. => true
  | _ => false

/-- An error of a task that does not end the one that asked for it, or that is as it was created. -/
def Request.Spent (host : Host) (r : Request) (y : EvalError) : Prop :=
  match r.1 with
  | .call .. | .invoke .. => y.isWrappable = true
  | .callback .. => host.Original y
  | .walk .. | .enter .. | .render .. => False

/-- A step fails with the errors that it receives and may not replace, after they have left the
tasks, and apart from them only with errors of a kind. -/
structure Walk.Traces (host : Host) (own : EvalError → Prop) (m : Walk α) : Prop where
  leaves : ∀ {s u : State} {task : Task} {y : EvalError}, (m s).Asks host task u →
    Request.Fails host (task, u) y → y.isWrappable = false →
      ∃ x names, Request.Records (task, u) names ∧ y.Leaves names x ∧ (⟨m, s⟩ : Act).Fails host x
  origin : ∀ {s : State} {x : EvalError}, (⟨m, s⟩ : Act).Fails host x →
    (∀ task u y, (m s).Asks host task u → Request.Fails host (task, u) y →
      Request.Spent host (task, u) y) → own x

namespace Walk.Traces

variable {own own' : EvalError → Prop} {m : Walk α} {s u : State}

private theorem mono (hm : m.Traces host own) (h : ∀ x, own x → own' x) : m.Traces host own' :=
  ⟨hm.leaves, fun hf hs ↦ h _ (hm.origin hf hs)⟩

/-- A step that asks for nothing. -/
theorem quiet (h : ∀ s, ∃ o u, m s = .done (o, u) ∧ ∀ e, o = .error e → own e) :
    m.Traces host own := by
  constructor
  · intro s u task y ha
    obtain ⟨o, v, hs, -⟩ := h s
    rw [hs] at ha
    cases ha
  · intro s x ⟨v, hx⟩ _
    obtain ⟨o, w, hs, ho⟩ := h s
    dsimp only at hx
    rw [hs] at hx
    cases hx
    exact ho x rfl

private theorem pure (a : α) :
    (Pure.pure a : Walk α).Traces host own :=
  quiet fun _ ↦ ⟨_, _, rfl, fun _ h ↦ (nomatch h)⟩

private theorem fail {e : EvalError} (h : own e) : (Walk.fail e : Walk α).Traces host own := by
  refine quiet fun s ↦ ⟨_, _, rfl, fun e' he ↦ ?_⟩
  cases he
  exact h

private theorem ofExcept {x : Except EvalError α} (h : ∀ e, x = .error e → own e) :
    (Walk.ofExcept x).Traces host own := by
  cases x with
  | ok a => exact pure a
  | error e => exact fail (h e rfl)

private theorem read (f : State → α) : (Walk.read f).Traces host own :=
  quiet fun _ ↦ ⟨_, _, rfl, fun _ h ↦ (nomatch h)⟩

private theorem modify (f : State → State) : (Walk.modify f).Traces host own :=
  quiet fun _ ↦ ⟨_, _, rfl, fun _ h ↦ (nomatch h)⟩

private theorem changeAt (length : State → Nat) (place : Nat) (f : State → State) :
    (Walk.changeAt length place f).Traces host own := by
  refine quiet fun s ↦ ?_
  rw [Walk.changeAt]
  split
  · exact ⟨_, _, rfl, fun _ h ↦ by cases h⟩
  · exact ⟨_, _, rfl, fun _ h ↦ by cases h⟩

private theorem hold (v : Value) :
    (Walk.hold v).Traces host own :=
  quiet fun _ ↦ ⟨_, _, rfl, fun _ h ↦ (nomatch h)⟩

private theorem newObject (o : Object) : (Walk.newObject o).Traces host own :=
  quiet fun _ ↦ ⟨_, _, rfl, fun _ h ↦ (nomatch h)⟩

private theorem receive (channel : Nat) : (Walk.receive channel).Traces host own :=
  quiet fun _ ↦ ⟨_, _, rfl, fun _ h ↦ (nomatch h)⟩

private theorem plain {p : Plain α} (h : ∀ e, p.Raises e ∨ host.Original e → own e) :
    (Walk.plain host p).Traces host own := by
  refine quiet fun s ↦ ⟨(p.run host s.resources).1, _, rfl, fun e he ↦ h e ?_⟩
  have hrun : p.run host s.resources = (.error e, (p.run host s.resources).2) := Prod.ext he rfl
  exact Plain.raises_or_original hrun

/-- A task that is asked for without a call of a template. -/
theorem ask {task : Task} (ht : task.opens = false)
    (h : ∀ u y, Request.Spent host (task, u) y → own y) : (Walk.ask task).Traces host own := by
  constructor
  · intro s u t y ha hy _
    cases ha with
    | now =>
      obtain ⟨v, hv⟩ := hy
      exact ⟨y, [], .other ht, .refl y, v, ask_ends hv⟩
    | later _ hd => cases hd
  · intro s x ⟨v, hx⟩ hs
    cases hx with
    | ask hr hd =>
      cases hd
      exact h s x (hs task s x .now ⟨v, hr⟩)

private theorem bind {f : α → Walk β} (hm : m.Traces host own) (hf : ∀ a, (f a).Traces host own) :
    (m >>= f).Traces host own := by
  constructor
  · intro s u task y ha hy hw
    obtain ha | ⟨a, v, hv, ha⟩ := of_asks_bind ha
    · obtain ⟨x, names, hr, hl, v, hx⟩ := hm.leaves ha hy hw
      exact ⟨x, names, hr, hl, v, bind_ends_error hx⟩
    · obtain ⟨x, names, hr, hl, w, hx⟩ := (hf a).leaves ha hy hw
      exact ⟨x, names, hr, hl, w, bind_ends hv hx⟩
  · intro s x ⟨v, hx⟩ hs
    obtain ⟨e, he, hm'⟩ | ⟨a, w, ha, hf'⟩ := of_bind_ends hx trivial
    · cases he
      refine hm.origin ⟨v, hm'⟩ fun task u y h hy ↦ hs task u y ?_ hy
      rw [bind_run]
      exact h.bind
    · exact (hf a).origin ⟨v, hf'⟩ fun task u y h hy ↦ hs task u y (asks_bind_ends ha h) hy

private theorem read_bind {f : State → α} {k : α → Walk β} (h : ∀ a, (k a).Traces host own) :
    (Walk.read f >>= k).Traces host own :=
  bind (read f) h

/-- A step that looks at an error of another one and in the end fails with it, or with one in place
of it if it may be replaced. -/
theorem attempted {k : Except EvalError α → Walk β} (hm : m.Traces host own)
    (hk : ∀ e u, ∃ x v, k (.error e) u = .done (.error x, v) ∧ (e.isWrappable = false → x = e) ∧
      (own e → own' x))
    (hf : ∀ a, (k (.ok a)).Traces host own') : (m.attempt >>= k).Traces host own' := by
  have silent (e u) : ∃ r, k (.error e) u = .done r := by
    obtain ⟨x, v, hv, -⟩ := hk e u
    exact ⟨_, hv⟩
  constructor
  · intro s u task y ha hy hw
    obtain ha | ⟨a, v, hv, ha⟩ := of_asks_attempt_bind silent ha
    · obtain ⟨x, names, hr, hl, v, hx⟩ := hm.leaves ha hy hw
      obtain ⟨x', w, hv, he, -⟩ := hk x v
      cases he (hl.passes.isWrappable hw)
      exact ⟨_, names, hr, hl, w, bind_ends (attempt_ends_error hx) (.value hv)⟩
    · obtain ⟨x, names, hr, hl, w, hx⟩ := (hf a).leaves ha hy hw
      exact ⟨x, names, hr, hl, w, bind_ends (attempt_ends hv) hx⟩
  · intro s x ⟨v, hx⟩ hs
    obtain ⟨r, w, hr, hx⟩ := of_attempt_bind_ends hx trivial
    cases r with
    | ok a =>
      exact (hf a).origin ⟨v, hx⟩ fun task u y h hy ↦
        hs task u y (asks_bind_ends (attempt_ends hr) h) hy
    | error e =>
      obtain ⟨x', w', hw', -, hown⟩ := hk e w
      rw [hw'] at hx
      cases hx
      exact hown (hm.origin ⟨w, hr⟩ fun task u y h hy ↦ hs task u y (asks_attempt_bind h) hy)

private theorem after {f : State → State} (hm : m.Traces host own) : (m.after f).Traces host own :=
  attempted hm (fun e _ ↦ ⟨e, _, rfl, fun _ ↦ rfl, id⟩) fun a ↦ bind (modify f) fun _ ↦ pure a

private theorem inScope (hm : m.Traces host own) : (Walk.inScope m).Traces host own :=
  read_bind fun _ ↦ hm.after

/-- A step with a change of its errors that records no call. -/
theorem located (hm : m.Traces host host.Original) :
    (m.mapError State.locate).Traces host host.Original := by
  constructor
  · intro s u task y ha hy hw
    obtain ⟨x, names, hr, hl, v, hx⟩ := hm.leaves (of_asks_mapError ha) hy hw
    refine ⟨v.locate x, names, hr, ?_, v, mapError_ends_error hx⟩
    have := hl.trans (.locate v x)
    rwa [List.append_nil] at this
  · intro s x ⟨v, hx⟩ hs
    obtain ⟨⟨o, w⟩, ho, hx⟩ := Run.Ends.of_bind hx
    cases o with
    | ok a | panic message => cases hx
    | error e =>
      cases hx
      exact (hm.origin ⟨v, ho⟩ fun task u y h hy ↦ hs task u y h.bind hy).locate v

private theorem perform {task : Task} (ht : task.opens = false)
    (h : ∀ u y, Request.Spent host (task, u) y → own y) : (Walk.perform task).Traces host own :=
  bind (ask ht h) fun _ ↦ pure ()

private theorem nodes (ns : List Node) (dot : Value) : (Walk.nodes ns dot).Traces host own :=
  perform rfl fun _ _ ↦ False.elim

private theorem optional (ns : Option (List Node)) (dot : Value) :
    (Walk.optional ns dot).Traces host own := by
  cases ns with
  | none => exact pure ()
  | some ns => exact nodes ns dot

private theorem capture {m : Walk Unit} (hm : m.Traces host own) :
    (Walk.capture m).Traces host own :=
  read_bind fun _ ↦ bind (modify _) fun _ ↦ attempted hm (fun e _ ↦ ⟨e, _, rfl, fun _ ↦ rfl, id⟩)
    fun _ ↦ bind (modify _) fun _ ↦ read_bind fun _ ↦ bind (modify _) fun _ ↦ pure _

end Walk.Traces

/-! ### Output and other renders -/

namespace Walk

private theorem writeLevel_traces (level : Nat) (bytes : ByteArray) :
    (writeLevel level bytes).Traces host host.Original := by
  induction level generalizing bytes with
  | zero =>
    refine .quiet fun s ↦ ?_
    rw [writeLevel, writeBottom]
    split
    · exact ⟨_, _, rfl, fun _ h ↦ by cases h⟩
    · refine ⟨_, _, rfl, fun e he ↦ .inl ?_⟩
      cases he
      rfl
  | succ level ih =>
    have hsink : (sinkAt level).Traces host host.Original := by
      refine .quiet fun s ↦ ?_
      rw [sinkAt]
      split
      · exact ⟨_, _, rfl, fun _ h ↦ by cases h⟩
      · exact ⟨_, _, rfl, fun _ h ↦ by cases h⟩
    refine hsink.bind fun sink ↦ ?_
    split
    · exact .modify _
    · split
      · exact ih bytes
      · refine .bind (.modify _) fun _ ↦ ?_
        split
        · exact .pure ()
        · split
          · exact .bind (.read_bind fun _ ↦ .bind (.modify _) fun _ ↦
              .after (.inScope (.nodes _ _))) fun _ ↦ ih _
          · exact .bind (.pure ()) fun _ ↦ ih _

private theorem write_traces (bytes : ByteArray) : (write bytes).Traces host host.Original := by
  rw [write]
  split
  · exact .pure ()
  · exact .read_bind fun level ↦ writeLevel_traces level bytes

private theorem wrap_traces (strip : Bool) (body : List Node)
    (before after otherwise : Option (List Node))
    (dot : Value) : (wrap strip body before after otherwise dot).Traces host host.Original := by
  have ended (triggered : Bool) :
      (optional (if triggered then after else otherwise) dot).Traces host host.Original :=
    .optional _ _
  exact .inScope <| .read_bind fun _ ↦ .bind (.modify _) fun _ ↦
    .attempted (.nodes body dot) (fun e _ ↦ ⟨e, _, rfl, fun _ ↦ rfl, id⟩) fun _ ↦
      .bind (.modify _) fun _ ↦ .read_bind fun triggered ↦ .bind (.modify _) fun _ ↦ ended triggered

/-- An error that leaves a called template records its name. -/
theorem enterTemplate_traces (span : Span) (name : String) (pipe : Option Pipe)
    (template : Template) (tree : Tree) (dot : Value) (args : List Value) :
    (enterTemplate span (.template span name pipe) name template tree dot args).Traces host
      host.Original := by
  constructor
  · rintro s u task y ha ⟨v, hy⟩ _
    obtain ⟨rfl, rfl⟩ := enterTemplate_asks_iff.mp ha
    let back := (Caller.of { s with
      place := some (span, .node (.template span name pipe)) }).restore template v
    refine ⟨_, [name], .enter rfl, .withFrame y name (some back.step.text), back, ?_⟩
    show (enterTemplate _ _ _ _ _ _ _ _).Ends host _
    rw [enterTemplate, setPlace, modify_bind, read_bind, modify_bind]
    exact mapError_ends_error (after_ends (perform_ends_error hy) trivial)
  · rintro s x ⟨v, hx⟩ hs
    have hx : (enterTemplate _ _ _ _ _ _ _ _).Ends host (.error x, v) := hx
    rw [enterTemplate, setPlace, modify_bind, read_bind, modify_bind] at hx
    obtain ⟨⟨o, w⟩, ho, hx⟩ := Run.Ends.of_bind hx
    cases o with
    | ok _ | panic message => cases hx
    | error e =>
      obtain ⟨v', hv, -⟩ := of_after_ends ho trivial
      exact (hs _ _ e (enterTemplate_asks_iff.mpr ⟨rfl, rfl⟩) ⟨v', of_perform_ends_error hv⟩).elim

/-- An error that leaves a template that was rendered by a function records both templates. -/
theorem renderNested_traces (name : String) (data : Value) :
    (renderNested name data).Traces host host.Provisional := by
  -- the state in which the template is walked, with its caller at the end of the path
  have called {s : State} {template : Template} {nodes : List Node} {dot : Value}
      (hc : s.callee name = .ok template) :
      Request.Records (.render nodes dot, nestedState s template data)
        [s.template.name ++ "/" ++ name] := by
    have hl := (State.of_callee hc).1
    rw [nestedState]
    dsimp only
    split
    · exact @Request.Records.render _ _ _ s.exec.superPath s.step _ rfl hl
    · exact @Request.Records.render _ _ _ s.exec.superPath s.step _ rfl hl
  constructor
  · rintro s u task y ha ⟨v, hy⟩ _
    rw [renderNested] at ha
    split at ha
    · cases ha
    · next template hc =>
      dsimp only at ha
      split at ha
      · cases ha
      · next tree ht =>
        cases ha with
        | now =>
          refine ⟨_, _, called hc, .withFrame y _ none, { s with resources := v.resources }, ?_⟩
          simp only [renderNested, hc, ht]
          exact .ask hy (.done _)
        | later _ h =>
          dsimp only at h
          split at h
          · cases h
          · cases h
          · cases h
  · rintro s x ⟨v, hx⟩ hs
    have hx : (renderNested name data s).Ends host (.error x, v) := hx
    rw [renderNested] at hx
    split at hx
    · next e he =>
      cases hx
      exact .inr (.inl ((s.callee_fresh name).frames _ he))
    · next template hc =>
      dsimp only at hx
      split at hx
      · cases hx
        exact .inl rfl
      · next tree ht =>
        have ha : (renderNested name data s).Asks host
            (.render tree.root (nestedState s template data).data)
            (nestedState s template data) := by
          simp only [renderNested, hc, ht]
          exact .now
        cases hx with
        | @ask _ _ _ _ r _ hr hd =>
          obtain ⟨o, w⟩ := r
          cases o with
          | ok _ | panic message => cases hd
          | error e => exact (hs _ _ e ha ⟨w, hr⟩).elim

private theorem runBlock_traces (handle : Nat) (dot : Value) (args : List Value) (captured : Bool) :
    (runBlock handle dot args captured).Traces host host.Provisional := by
  have run : (perform (.invoke handle dot args)).Traces host host.Provisional :=
    .perform rfl fun _ _ ↦ .inl
  rw [runBlock]
  split
  · exact .capture run
  · exact .bind run fun _ ↦ .pure _

end Walk

/-! ### Programs and functions -/

namespace Program

private theorem begin_traces {p : Program α} {b : Beginning α} (h : p.begin? host = some b) :
    b.walk.Traces host fun x ↦ p.Raises host x ∨ host.Provisional x := by
  have provisional {m : Walk b.β} (hm : m.Traces host host.Provisional) :
      m.Traces host fun x ↦ p.Raises host x ∨ host.Provisional x := hm.mono fun _ ↦ .inr
  have written (bytes : ByteArray) : (Walk.write bytes).Traces host host.Provisional :=
    (Walk.write_traces bytes).mono fun _ ↦ .inr
  cases p with
  | finish => cases h
  | run p =>
    cases h
    exact .plain fun e he ↦ he.imp .run .inr
  | view =>
    cases h
    exact .read _
  | newObject o =>
    cases h
    exact .newObject o
  | receive channel =>
    cases h
    exact .receive channel
  | updateStore =>
    cases h
    exact .modify _
  | write text =>
    cases h
    exact provisional (written _)
  | callValue =>
    cases h
    exact .ask rfl fun _ _ hs ↦ .inr (.inl hs)
  | runBlock =>
    cases h
    exact provisional (Walk.runBlock_traces ..)
  | render =>
    cases h
    exact provisional (Walk.renderNested_traces ..)
  | yield =>
    cases h
    exact provisional (.bind (Walk.renderNested_traces ..) written)

/-- A program that passes on errors fails apart from them with its own and with those that it may
receive. -/
theorem traces {p : Program α} (hp : p.PassesOn host) :
    (Walk.program host p).Traces host fun x ↦ p.Raises host x ∨ host.Provisional x := by
  revert hp
  apply Program.induction host _ p
  intro p ih hp
  cases hb : p.begin? host with
  | none =>
    cases p with
    | finish p => exact .plain fun e he ↦ he.imp .finish .inr
    | _ => cases hb
  | some b =>
    cases hp with
    | finish => cases hb
    | act hb' he hn =>
      cases hb.symm.trans hb'
      have first := begin_traces hb
      constructor
      · intro s u task y ha hy hw
        rw [program_run hb] at ha
        obtain ha | ⟨r, v, hr, ha⟩ := Walk.of_asks_bind ha
        · obtain ⟨x, names, hrec, hl, v, hx⟩ := first.leaves (Walk.of_asks_attempt ha) hy hw
          obtain ⟨w, hend⟩ := he x (hl.passes.isWrappable hw) v
          refine ⟨x, names, hrec, hl, w, ?_⟩
          show (Walk.program host p s).Ends host _
          rw [program_run hb]
          exact Walk.bind_ends (Walk.attempt_ends_error hx) hend
        · obtain ⟨x, names, hrec, hl, w, hx⟩ := (ih b hb r (hn r)).leaves ha hy hw
          refine ⟨x, names, hrec, hl, w, ?_⟩
          show (Walk.program host p s).Ends host _
          rw [program_run hb]
          exact Walk.bind_ends hr hx
      · intro s x ⟨v, hx⟩ hs
        have hx : (Walk.program host p s).Ends host (.error x, v) := hx
        rw [program_run hb] at hx hs
        obtain ⟨r, w, hr, hx⟩ := Walk.of_attempt_bind_ends hx trivial
        have later := (ih b hb r (hn r)).origin ⟨v, hx⟩ fun task u y h hy ↦
          hs task u y (Walk.asks_bind_ends (Walk.attempt_ends_ofExcept hr) h) hy
        by_cases hrx : r = .error x
        · cases hrx
          exact first.origin ⟨w, hr⟩ fun task u y h hy ↦
            hs task u y (Walk.asks_attempt_bind h) hy
        · exact later.imp_left (.later hb hrx)

end Program

namespace Walk

variable (hp : host.PassesOn)

private theorem resolve_traces (f : FuncValue) : (resolve host f).Traces host host.Original := by
  cases f with
  | direct f => exact .pure f
  | contextBound id =>
    refine .read_bind fun found ↦ ?_
    split
    · exact .pure _
    · have built (context : Context) :
          (Walk.plain host (host.build id context)).Traces host host.Original :=
        .plain fun _ he ↦ he.elim (fun h ↦ (Host.Raises.build h).original) fun h ↦ h
      exact .read_bind fun context ↦ .bind (built context) fun _ ↦ .bind (.modify _) fun _ ↦ .pure _

private theorem runBody_traces (handle : Nat) (b : Block) (dot : Value) :
    (runBody handle b dot).Traces host host.Provisional :=
  .read_bind fun _ ↦ .bind (.after (.nodes _ _)) fun _ ↦ .bind (.changeAt ..) fun _ ↦ .changeAt ..

private theorem invokeBlock_traces (handle : Nat) (dot : Value) (args : List Value) :
    (invokeBlock handle dot args).Traces host host.Provisional := by
  refine .read_bind fun found ↦ ?_
  split
  · exact .fail (.inl rfl)
  · exact .bind (.hold _) fun _ ↦ .bind (.changeAt ..) fun _ ↦ .bind (.changeAt ..) fun _ ↦
      runBody_traces handle _ dot

include hp

private theorem program_traces (f : Function) (args : List Value) :
    (program host (f.program host args)).Traces host host.Provisional :=
  (Program.traces (f.program_passesOn hp args)).mono fun _ h ↦
    h.elim (fun h ↦ .inr (Function.original_of_program h)) id

private theorem callFunction_traces (f : Function) (name : String) (args : List Value) :
    (callFunction host f name args).Traces host host.Original := by
  refine .bind (.ofExcept fun e he ↦ .inl ((f.checkArity_fresh ..).frames e he)) fun _ ↦
    .read_bind fun place ↦ .attempted (program_traces hp f args).after ?_ fun _ ↦ .hold _
  intro e u
  refine ⟨_, u, rfl, fun hw ↦ if_neg (by rw [hw]; nofun), fun he ↦ ?_⟩
  split
  · exact .inl rfl
  · next hw => exact he.resolve_left hw

private theorem callValue_traces (f : Value) (args : List Value) :
    (callValue host f args).Traces host host.Provisional := by
  rw [callValue]
  split
  · refine .bind ((resolve_traces _).mono fun _ ↦ .inr) fun g ↦ ?_
    split
    · exact .bind (program_traces hp g args) fun _ ↦ .hold _
    · exact .fail (.inl rfl)
  · exact .fail (.inl rfl)
  · exact .fail (.inl rfl)
  · exact .fail (.inl rfl)

/-! ### Evaluation and tasks -/

private theorem Made.traces {m : Walk α} (h : Made host m) : m.Traces host host.Original := by
  induction h with
  | pure a => exact .pure a
  | fail h => exact .fail (.inl h)
  | read f => exact .read _
  | @find _ f _ hf =>
    refine .quiet fun s ↦ ?_
    show ∃ o u, Walk.ofExcept (f s) s = _ ∧ _
    cases hs : f s with
    | ok a => exact ⟨_, _, rfl, fun _ h ↦ (nomatch h)⟩
    | error e =>
      refine ⟨_, _, rfl, fun _ hx ↦ ?_⟩
      cases hx
      exact .inl ((hf s).frames _ hs)
  | hold v => exact .hold v
  | newObject o => exact .newObject o
  | receive channel => exact .receive channel
  | setVars _ => exact .modify _
  | setPlace => exact .modify _
  | resolve f => exact resolve_traces f
  | call f name args => exact callFunction_traces hp f name args
  | text s => exact write_traces _
  | nodes ns dot => exact .nodes ns dot
  | collect ns dot => exact .capture (.nodes ns dot)
  | wrap => exact wrap_traces ..
  | callback => exact .ask rfl fun _ _ h ↦ h
  | enter => exact enterTemplate_traces ..
  | bind _ _ ih ihf => exact .bind ih ihf
  | afterVars _ _ ih => exact .after ih
  | located _ ih => exact .located ih

/-- A task other than a call or an invocation fails by itself with errors as they are created. -/
theorem start_traces_original {task : Task} (h : task.isReplacing = false) :
    (start host task).Traces host host.Original := by
  cases task with
  | walk nodes dot | enter nodes dot | render nodes dot =>
    exact .bind ((each_made nodes).traces hp) fun _ ↦ .pure _
  | callback call body dot =>
    exact .read_bind fun handle ↦ .bind (.modify _) fun _ ↦
      ((blockCall_evalWith_made handle call).traces hp).after
  | call | invoke => cases h

/-- A task records the calls that are left in the errors of what it asks for. -/
theorem start_traces (task : Task) : (start host task).Traces host host.Provisional := by
  cases task with
  | call f args => exact callValue_traces hp f args
  | invoke handle dot args => exact .bind (invokeBlock_traces handle dot args) fun _ ↦ .pure _
  | walk | enter | render | callback => exact (start_traces_original hp rfl).mono fun _ ↦ .inr

end Walk

end TextTemplate
