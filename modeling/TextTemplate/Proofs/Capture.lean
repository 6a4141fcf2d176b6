import TextTemplate.Proofs.Coverage
import TextTemplate.Proofs.Growth
import TextTemplate.Proofs.Lookup
import TextTemplate.Proofs.Mirror

/-!
# Captures

The output of the body of an argument block, of an invocation whose output a function asks for, and
of a nested render is collected apart from the output around it. While it is collected nothing
outside changes; it is handed over as it was written if all of it could be written, and it is lost
otherwise (`captures_isolated`).
-/

set_option autoImplicit false

namespace TextTemplate

variable {host : Host}

/-! ### States within a capture -/

/-- A state in which nothing has been written, and without sinks. -/
def State.alone (s : State) : State := s.redirect [] .unlimited

/-- A state lies around another one: there the sinks are as they were in it, below a buffer and
maybe more sinks, and so is the writer. -/
def State.Encloses (s u : State) : Prop :=
  u.writer = s.writer ∧ ∃ above held, u.sinks = above ++ .buffer held :: s.sinks

private theorem State.encloses_within (s t : State) : s.Encloses (t.within s.sinks s.writer) :=
  ⟨rfl, t.sinks, t.writer.written, rfl⟩

/-- Whatever runs within a capture runs as it would alone. -/
theorem Moment.exists_within {task : Task} {outside : List Sink} {w : Writer} {t : State}
    {request : Request} {below : List Request}
    (h : Moment host (task, t.within outside w) (request :: below))
    (ht : t.writer.capacity = none) (hr : ∀ q ∈ request :: below, q.1.isRender = false) :
    ∃ u : State, request.2 = u.within outside w ∧ u.writer.capacity = none := by
  generalize hl : request :: below = stack at h hr
  induction h generalizing request below with
  | start =>
    cases hl
    exact ⟨t, rfl, ht⟩
  | @ask asked v rest parent _ ha ih =>
    cases hl
    rw [List.forall_mem_cons] at hr
    obtain ⟨u, hu, hw⟩ := ih rfl hr.2
    rw [hu] at ha
    obtain ⟨hrender, -⟩ | ⟨u', -, hv, hw'⟩ := (Walk.start_mirrored parent.1 u hw).of_asks ha
    · exact absurd hrender (by simp [hr.1])
    · exact ⟨u', hv, hw'⟩

/-! ### What a capture ends with -/

namespace Walk

variable {task : Task} {s u : State}

/-- The end of a capture, by the state that its body left alone. -/
private theorem capture_closes (hu : u.sinks = []) (result : Except EvalError Unit) :
    (do
      modify (State.truncateSinks (s.sinks.length + 1))
      let bytes ← read fun s => (Sink.popBuffer s.sinks).1
      modify fun s => { s with sinks := (Sink.popBuffer s.sinks).2 }
      ofExcept (result.map fun _ => bytes) : Walk ByteArray) (u.within s.sinks s.writer) =
    ofExcept (result.map fun _ => u.writer.written) (u.redirect s.sinks s.writer) := by
  have hsinks : (u.within s.sinks s.writer).sinks = .buffer u.writer.written :: s.sinks := by
    rw [State.within, hu]
    rfl
  have hlength : (Sink.buffer u.writer.written :: s.sinks).length ≤ s.sinks.length + 1 :=
    Nat.le_refl _
  rw [modify_bind, State.truncateSinks, hsinks, Stack.oldest_of_length_le hlength, read_bind,
    modify_bind]
  rfl

/-- A capture ends as its body would alone, with what the body would have written if it succeeds,
and outside of it nothing has changed. -/
theorem capture_ends {o : Outcome Value} (h : (start host task s.alone).Ends host (o, u))
    (ho : o.Returned) :
    (capture (perform task) s).Ends host
      (o.bind fun _ ↦ .ok u.writer.written, u.redirect s.sinks s.writer) := by
  have mirrors : (start host task (s.pushSink (.buffer .empty))).Mirrors s.sinks s.writer []
      (start host task s.alone) := start_mirrored task s.alone rfl
  obtain ⟨⟨o', v⟩, hv, ⟨houtcome, hstate, -, hkinds⟩⟩ := mirrors.exists_ends h
  dsimp only at houtcome hstate
  subst houtcome hstate
  have hu : u.sinks = [] := List.map_eq_nil_iff.mp (hkinds ho)
  rw [capture, read_bind, modify_bind]
  cases o' with
  | ok value =>
    refine bind_ends (attempt_ends (perform_ends hv)) ?_
    rw [capture_closes hu]
    exact .done _
  | error e =>
    refine bind_ends (attempt_ends_error (perform_ends_error hv)) ?_
    rw [capture_closes hu]
    exact .done _
  | panic message => exact ho.elim

private theorem of_perform_returned {o : Outcome Unit} (h : (perform task s).Ends host (o, u))
    (ho : o.Returned) : ∃ o', (start host task s).Ends host (o', u) ∧ o'.Returned := by
  obtain ⟨e, rfl, ha⟩ | ⟨value, v, ha, hd⟩ := of_bind_ends h ho
  · cases ha with
    | ask hs hd =>
      cases hd
      exact ⟨_, hs, trivial⟩
  · cases hd
    cases ha with
    | ask hs hd =>
      cases hd
      exact ⟨_, hs, trivial⟩

private theorem of_attempt_ends {α : Type} {m : Walk α} {o : Outcome (Except EvalError α)}
    (h : (m.attempt s).Ends host (o, u)) (ho : o.Returned) :
    ∃ o', (m s).Ends host (o', u) ∧ o'.Returned := by
  obtain ⟨⟨o', v⟩, hm, hr⟩ := Run.Ends.of_bind h
  cases o' with
  | ok a =>
    cases hr
    exact ⟨_, hm, trivial⟩
  | error e =>
    cases hr
    exact ⟨_, hm, trivial⟩
  | panic message =>
    cases hr
    exact ho.elim

/-- A capture that returns does so as its body returns alone. -/
theorem of_capture_ends {o : Outcome ByteArray} {v : State}
    (h : (capture (perform task) s).Ends host (o, v)) (ho : o.Returned) :
    ∃ o' u, (start host task s.alone).Ends host (o', u) ∧ o'.Returned ∧
      o = (o'.bind fun _ ↦ .ok u.writer.written) ∧ v = u.redirect s.sinks s.writer := by
  have mirrors : (start host task (s.pushSink (.buffer .empty))).Mirrors s.sinks s.writer []
      (start host task s.alone) := start_mirrored task s.alone rfl
  have returned : ∃ x v, (start host task (s.pushSink (.buffer .empty))).Ends host (x, v) ∧
      x.Returned := by
    have hc := h
    rw [capture, read_bind, modify_bind] at hc
    obtain ⟨e, -, hm⟩ | ⟨_, v, hm, -⟩ := of_bind_ends hc ho
    · obtain ⟨x, hx, hr⟩ := of_attempt_ends hm trivial
      exact (of_perform_returned hx hr).imp fun _ hs ↦ ⟨_, hs⟩
    · obtain ⟨x, hx, hr⟩ := of_attempt_ends hm trivial
      exact (of_perform_returned hx hr).imp fun _ hs ↦ ⟨_, hs⟩
  obtain ⟨x, w, hx, hr⟩ := returned
  obtain ⟨⟨o', u⟩, hu, hm⟩ := mirrors.of_ends hx
  cases hm.outcome
  cases h.unique (capture_ends hu hr)
  exact ⟨x, u, hu, hr, rfl, rfl⟩

end Walk

/-! ### What is collected -/

/-- A run hands over the output of a task, exactly, if the task succeeds, and nothing if it fails;
in both cases it ends in what the task left, seen from outside. Output can be read as a text without
a change. -/
structure Run.Collects (host : Host) (x : Run (Outcome ByteArray × State)) (inner : Request)
    (outside : State → State) (passed : EvalError → EvalError) : Prop where
  ok_iff : ∀ bytes v, x.Ends host (.ok bytes, v) ↔
    ∃ value u, (Walk.start host inner.1 inner.2).Ends host (.ok value, u) ∧
      bytes = u.writer.written ∧ v = outside u
  error_iff : ∀ e v, x.Ends host (.error e, v) ↔
    ∃ e' u, (Walk.start host inner.1 inner.2).Ends host (.error e', u) ∧
      e = passed e' ∧ v = outside u
  read : ∀ bytes v, x.Ends host (.ok bytes, v) → (Text.decodeText bytes).toUTF8 = bytes

/-- What a task has written that began without sinks and without a limit can be read as a text. -/
theorem Walk.toUTF8_written {task : Task} {s u : State} {o : Outcome Value} (hs : s.sinks = [])
    (hw : s.writer = .unlimited) (h : (start host task s).Ends host (o, u)) :
    (Text.decodeText u.writer.written).toUTF8 = u.writer.written := by
  have htext : s.HoldsText := by
    rw [State.HoldsText, hs]
    exact List.forall_mem_nil _
  have hgrows : s.writer.Grows u.writer := (start_answered htext h).grows
  rw [hw] at hgrows
  exact Text.toUTF8_decodeText hgrows.isValid

/-- A step that collects output in a render: that of the body of an argument block, or that of the
body of a callback block, which a function runs for its output. -/
inductive Capture where
  | argument (body : List Node) (dot : Value)
  | invocation (handle : Nat) (dot : Value) (args : List Value)

namespace Capture

/-- What is run within a capture. -/
def task : Capture → Task
  | argument body dot => .walk body dot
  | invocation handle dot args => .invoke handle dot args

/-- What a capture does. -/
def walk : Capture → Walk ByteArray
  | argument body dot => Walk.capture (Walk.nodes body dot)
  | invocation handle dot args => Walk.runBlock handle dot args true

/-- A capture in a state: it asks for its task with a buffer above everything else. While the task
runs, in whatever other tasks, nothing that lies below the buffer changes, and nothing has changed
when one of them ends, however it ends. What is collected is what the task would write if it ran
alone. -/
structure Isolated (host : Host) (c : Capture) (s : State) : Prop where
  asks : ∀ task u, (c.walk s).Asks host task u → task = c.task ∧ u = s.pushSink (.buffer .empty)
  during : ∀ request below,
    Moment host (c.task, s.pushSink (.buffer .empty)) (request :: below) →
      (∀ q ∈ request :: below, q.1.isRender = false) →
        s.Encloses request.2 ∧
          ∀ r, (Walk.start host request.1 request.2).Ends host r → s.Encloses r.2
  collects : (c.walk s).Collects host (c.task, s.alone) (fun u ↦ u.redirect s.sinks s.writer) id

private theorem walk_eq (c : Capture) : c.walk = Walk.capture (Walk.perform c.task) := by
  cases c <;> rfl

private theorem collects (c : Capture) (s : State) :
    (c.walk s).Collects host (c.task, s.alone) (fun u ↦ u.redirect s.sinks s.writer) id where
  ok_iff bytes v := by
    rw [walk_eq]
    constructor
    · intro h
      obtain ⟨o, u, hu, -, ho, rfl⟩ := Walk.of_capture_ends h trivial
      cases o with
      | ok value =>
        cases ho
        exact ⟨value, u, hu, rfl, rfl⟩
      | error e | panic message => cases ho
    · rintro ⟨value, u, hu, rfl, rfl⟩
      exact Walk.capture_ends hu trivial
  error_iff e v := by
    rw [walk_eq]
    constructor
    · intro h
      obtain ⟨o, u, hu, -, ho, rfl⟩ := Walk.of_capture_ends h trivial
      cases o with
      | error e' =>
        cases ho
        exact ⟨e, u, hu, rfl, rfl⟩
      | ok value | panic message => cases ho
    · rintro ⟨e', u, hu, rfl, rfl⟩
      exact Walk.capture_ends hu trivial
  read bytes v h := by
    rw [walk_eq] at h
    obtain ⟨o, u, hu, -, ho, -⟩ := Walk.of_capture_ends h trivial
    cases o with
    | ok value =>
      cases ho
      exact Walk.toUTF8_written rfl rfl hu
    | error e | panic message => cases ho

private theorem isolated (c : Capture) (s : State) : c.Isolated host s where
  asks task u h := by
    rw [walk_eq, Walk.capture, Walk.read_bind, Walk.modify_bind] at h
    obtain h | ⟨result, v, -, h⟩ := Walk.of_asks_attempt_bind (fun _ _ ↦ ⟨_, rfl⟩) h
    · exact Walk.asks_perform_iff.mp h
    · cases h
  during request below h hr := by
    have ht : s.alone.writer.capacity = none := rfl
    obtain ⟨t, hs, hw⟩ := Moment.exists_within (t := s.alone) h ht hr
    rw [hs]
    refine ⟨s.encloses_within t, ?_⟩
    intro r hend
    obtain ⟨b, -, hm⟩ := (Walk.start_mirrored request.1 t hw).of_ends hend
    rw [hm.state]
    exact s.encloses_within b.2
  collects := c.collects s

end Capture

/-! ### The function of an argument block -/

/-- How an argument block goes on where the command that calls its function is found: the function
gets what the body has written as its last argument, exactly. Where the body fails, the function is
not called. -/
inductive Walk.HandsOver (host : Host) (pipe : Pipe) (call : Command) (body : List Node)
    (dot : Value) (s : State) : Outcome Unit × State → Prop where
  | called {value : Value} {u : State} {text : String} {r : Outcome Unit × State} :
      (start host (.walk body dot) s.alone).Ends host (.ok value, u) →
      text.toUTF8 = u.writer.written →
      ((call.evalWith host dot (Operand.arguments host dot call.operands.tail ++
        [Pure.pure (.text text)]) >>= printResult host pipe)
          (u.redirect s.sinks s.writer)).Ends host r →
        HandsOver host pipe call body dot s r
  | failed {e : EvalError} {u : State} :
      (start host (.walk body dot) s.alone).Ends host (.error e, u) →
        HandsOver host pipe call body dot s (.error e, u.redirect s.sinks s.writer)

private theorem Walk.argBlock_handsOver {pipe : Pipe} {body : List Node} {dot d : Value}
    {call : Command} {s u v : State} {o : Outcome Unit}
    (hcall : (blockCall host pipe dot s).Ends host (.ok (call, d), u))
    (h : (argBlock host pipe body dot s).Ends host (o, v)) (ho : o.Returned) :
    ∃ y, HandsOver host pipe call body d u (o, y) ∧
      v = { y with vars := y.vars.take s.vars.length } := by
  rw [argBlock, inScope, read_bind] at h
  obtain ⟨y, hy, rfl⟩ := of_after_ends h ho
  refine ⟨y, ?_, rfl⟩
  have collects : ((Capture.argument body d).walk u).Collects host
      ((Capture.argument body d).task, u.alone) (fun v ↦ v.redirect u.sinks u.writer) id :=
    (Capture.argument body d).collects u
  obtain ⟨e, rfl, hb⟩ | ⟨_, _, hb, hblock⟩ := of_bind_ends hy ho
  · cases hcall.unique hb
  · cases hcall.unique hb
    obtain ⟨e, rfl, hc⟩ | ⟨bytes, x, hc, hrest⟩ := of_bind_ends hblock ho
    · obtain ⟨e', x, hx, rfl, rfl⟩ := (collects.error_iff _ _).mp hc
      exact .failed hx
    · have hread := collects.read _ _ hc
      obtain ⟨value, x, hx, rfl, rfl⟩ := (collects.ok_iff _ _).mp hc
      exact .called hx hread hrest

/-! ### Nested renders -/

/-- A nested render has output of its own, from an unlimited writer without sinks on; its caller
gets it exactly, and goes on with nothing changed but the resources that all renders share, however
the render ends. -/
structure NestedCall.Apart (host : Host) (c : NestedCall) : Prop where
  begins : ∀ task u, c.run.Asks host task u → u.sinks = [] ∧ u.writer = .unlimited
  collects : ∀ task u, c.run.Asks host task u →
    c.run.Collects host (task, u) (fun v ↦ { c.caller with resources := v.resources })
      fun e ↦ e.withFrame (c.caller.template.name ++ "/" ++ c.name) none
  ends : ∀ o v, c.run.Ends host (o, v) → v = { c.caller with resources := v.resources }

/-- What a nested render gives to its caller. -/
def NestedCall.handed (c : NestedCall) : Reply → Outcome ByteArray × State
  | (.ok _, inner) => (.ok inner.writer.written, { c.caller with resources := inner.resources })
  | (.error e, inner) =>
    (.error (e.withFrame (c.caller.template.name ++ "/" ++ c.name) none),
      { c.caller with resources := inner.resources })
  | (.panic message, inner) =>
    (.panic message, { c.caller with resources := inner.resources })

/-- A nested render asks for its template, if it does that, and hands over what comes of it. -/
theorem NestedCall.run_eq {c : NestedCall} {task : Task} {u : State}
    (h : c.run.Asks host task u) : c.run = .ask task u fun r ↦ .done (c.handed r) := by
  obtain ⟨template, tree, hc, ht, rfl, rfl⟩ := NestedCall.of_asks h
  simp only [run, Walk.renderNested, hc, ht]
  congr
  funext r
  obtain ⟨o, inner⟩ := r
  cases o <;> rfl

private theorem NestedCall.ends_iff {c : NestedCall} {task : Task} {u : State}
    (h : c.run.Asks host task u) {r : Outcome ByteArray × State} :
    c.run.Ends host r ↔ ∃ r', (Walk.start host task u).Ends host r' ∧ r = c.handed r' := by
  rw [NestedCall.run_eq h]
  constructor
  · intro he
    cases he with
    | ask hr hd =>
      cases hd
      exact ⟨_, hr, rfl⟩
  · rintro ⟨r', hr, rfl⟩
    exact .ask hr (.done _)

private theorem NestedCall.apart (c : NestedCall) : c.Apart host where
  begins task u h := by
    obtain ⟨template, tree, -, -, rfl, -⟩ := NestedCall.of_asks h
    exact ⟨Walk.sinks_nestedState .., Walk.writer_nestedState ..⟩
  collects task u h := {
    ok_iff := fun bytes v ↦ by
      rw [NestedCall.ends_iff h]
      constructor
      · rintro ⟨⟨o, inner⟩, hr, heq⟩
        cases o with
        | ok value =>
          cases heq
          exact ⟨value, inner, hr, rfl, rfl⟩
        | error e | panic message => cases heq
      · rintro ⟨value, inner, hr, rfl, rfl⟩
        exact ⟨_, hr, rfl⟩
    error_iff := fun e v ↦ by
      rw [NestedCall.ends_iff h]
      constructor
      · rintro ⟨⟨o, inner⟩, hr, heq⟩
        cases o with
        | error e' =>
          cases heq
          exact ⟨e', inner, hr, rfl, rfl⟩
        | ok value | panic message => cases heq
      · rintro ⟨e', inner, hr, rfl, rfl⟩
        exact ⟨_, hr, rfl⟩
    read := fun bytes v he ↦ by
      obtain ⟨⟨o, inner⟩, hr, heq⟩ := (NestedCall.ends_iff h).mp he
      obtain ⟨template, tree, -, -, rfl, -⟩ := NestedCall.of_asks h
      cases o with
      | ok value =>
        cases heq
        exact Walk.toUTF8_written (Walk.sinks_nestedState ..) (Walk.writer_nestedState ..) hr
      | error e | panic message => cases heq }
  ends := c.isolated.ends

/-! ### All captures -/

/-- Captures are isolated, in every state, whatever sinks it has, and for every body. While the body
of an argument block runs, or an invocation whose output is asked for, nothing below the buffer of
the capture changes, whether the body ends normally, fails, exits or panics. What is collected is
what the body would write to a writer that takes everything; the function of an argument block gets
exactly that as its last argument, and what asked for an invocation or a nested render gets it as
bytes. If the body fails the error is passed on, the function is not called and nothing is handed
over. -/
theorem captures_isolated (s : State) :
    (∀ c : Capture, c.Isolated host s) ∧
      (∀ pipe body dot call d u,
        (Walk.blockCall host pipe dot s).Ends host (.ok (call, d), u) →
          ∀ o v, (Walk.argBlock host pipe body dot s).Ends host (o, v) → o.Returned →
            ∃ y, Walk.HandsOver host pipe call body d u (o, y) ∧
              v = { y with vars := y.vars.take s.vars.length }) ∧
      ∀ name data, NestedCall.Apart host ⟨name, data, s⟩ := by
  refine ⟨fun c ↦ c.isolated s, ?_, fun name data ↦ NestedCall.apart _⟩
  intro pipe body dot call d u hcall o v h ho
  exact Walk.argBlock_handsOver hcall h ho

/-! ### A capture within a wrap -/

/-- A state in the body of a wrap that has had no content yet. -/
def wrappedState : State :=
  State.blank.pushSink (.wrap (.fresh false (some [.text ⟨0, 0⟩ "before"]) .invalid))

/-- A body with a wrap of its own. -/
def wrappingBody : List Node :=
  [.wrap ⟨0, 0⟩ none [.text ⟨0, 0⟩ "b"] (some [.text ⟨0, 0⟩ "a"]) none none]

private theorem wrapping_ends : ∃ v u,
    (Walk.start .empty (.walk wrappingBody .invalid) wrappedState.alone).Ends .empty (.ok v, u) ∧
      u.writer.written = "ab".toUTF8 :=
  ⟨_, _, .after rfl (.after rfl (.value rfl) (.value rfl)) (.value rfl), rfl⟩

/-- What is collected leaves the wrap around it without content. -/
theorem captures_isolated_wrapped : ∃ v,
    ((Capture.argument wrappingBody .invalid).walk wrappedState).Ends .empty
      (.ok "ab".toUTF8, v) ∧ v.sinks = wrappedState.sinks ∧ v.writer = .unlimited := by
  obtain ⟨value, u, hu, hw⟩ := wrapping_ends
  have isolated : (Capture.argument wrappingBody .invalid).Isolated .empty wrappedState :=
    (captures_isolated wrappedState).1 _
  refine ⟨u.redirect wrappedState.sinks wrappedState.writer, ?_, rfl, rfl⟩
  exact (isolated.collects.ok_iff _ _).mpr ⟨value, u, hu, hw.symm, rfl⟩

end TextTemplate
