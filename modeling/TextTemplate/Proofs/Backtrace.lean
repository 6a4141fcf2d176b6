import TextTemplate.Proofs.Entry
import TextTemplate.Proofs.Unwinding

/-!
# Backtraces

The calls that an error has recorded when the caller of a render learns of it are those that were
open when the error was created, the innermost first (`backtrace_records`): one for each template
that is called or rendered by a function, and none for anything else.
-/

set_option autoImplicit false

namespace TextTemplate

variable {α : Type} {host : Host}

/-! ### From one task to the next -/

/-- To prove something of a task that ends, it may be assumed of all that it asks for and that
ends. -/
theorem Request.induction {P : Request → Prop}
    (h : ∀ r reply, (Walk.start host r.1 r.2).Ends host reply →
      (∀ task u reply, (Walk.start host r.1 r.2).Asks host task u →
        (Walk.start host task u).Ends host reply → P (task, u)) → P r)
    {r : Request} {reply : Reply} (hr : (Walk.start host r.1 r.2).Ends host reply) : P r := by
  have asked {α : Type} {x : Run α} {a : α} (hx : x.Ends host a) :
      ∀ task u reply, x.Asks host task u → (Walk.start host task u).Ends host reply →
        P (task, u) := by
    induction hx with
    | done => intro task u reply ha; cases ha
    | @ask _ task s _ r _ hr _ ihr ihn =>
      intro t u reply ha hu
      cases ha with
      | now => exact h (task, s) r hr ihr
      | later hr' ha =>
        cases hr.unique hr'
        exact ihn t u reply ha hu
  exact h r reply hr (asked hr)

/-- What is open above a task that was asked for is open above the one that asked for it. -/
theorem Moment.of_asked {r : Request} {task : Task} {u : State} {stack : List Request}
    (ha : (Walk.start host r.1 r.2).Asks host task u) (h : Moment host (task, u) stack) :
    Moment host r (stack ++ [r]) := by
  induction h with
  | start => exact .ask .start ha
  | ask _ hn ih => exact .ask ih hn

private theorem State.isWrappable_locate (s : State) (e : EvalError) :
    (s.locate e).isWrappable = false := by
  rw [locate]
  split
  · next h =>
    rw [Bool.or_eq_true] at h
    rw [EvalError.isWrappable, Bool.and_eq_false_iff, Bool.and_eq_false_iff]
    cases h with
    | inl h =>
      right
      rw [Option.isNone_eq_false_iff]
      exact h
    | inr h =>
      left
      right
      rw [Option.isNone_eq_false_iff]
      exact h
  · rw [EvalError.isWrappable, Bool.and_comm]
    rfl

/-- An error that leaves a walk may not be replaced. -/
theorem Walk.each_settled {nodes : List Node} {dot : Value} {s u : State} {x : EvalError}
    (h : (each host dot nodes s).Ends host (.error x, u)) : x.isWrappable = false := by
  induction nodes generalizing s with
  | nil => cases h
  | cons n rest ih =>
    obtain ⟨_, _, h⟩ | ⟨_, _, _, h⟩ := of_bind_ends h trivial
    · cases h
    · obtain ⟨_, he, h⟩ | ⟨_, _, _, h⟩ := of_bind_ends h trivial
      · cases he
        obtain ⟨⟨o, v⟩, -, h⟩ := Run.Ends.of_bind h
        cases o with
        | ok _ | panic _ => cases h
        | error e =>
          cases h
          exact State.isWrappable_locate _ e
      · exact ih h

namespace Request

variable {r : Request} {x : EvalError}

/-- A task fails in one way only. -/
theorem Fails.unique {y : EvalError} (hx : r.Fails host x) (hy : r.Fails host y) : x = y := by
  obtain ⟨u, hu⟩ := hx
  obtain ⟨v, hv⟩ := hy
  cases hu.unique hv
  rfl

/-- A task has received no error that it has to pass on. -/
def Unhurt (host : Host) (r : Request) : Prop :=
  ∀ task u y, (Walk.start host r.1 r.2).Asks host task u → Fails host (task, u) y →
    y.isWrappable = true

/-- A task that has received no error to pass on fails with one as it was created, unless a function
asked for it and the call replaces the error. -/
theorem original (hp : host.PassesOn) (hf : r.Fails host x) (hr : r.Unhurt host) :
    host.Provisional x ∧ (r.1.isReplacing = false → host.Original x) := by
  obtain ⟨v, hv⟩ := hf
  refine Request.induction (P := fun r ↦ ∀ x, r.Fails host x → r.Unhurt host →
    host.Provisional x ∧ (r.1.isReplacing = false → host.Original x)) ?_ hv x ⟨v, hv⟩ hr
  intro r _ _ ih x hx hr
  have spent (task : Task) (u : State) (y : EvalError)
      (ha : (Walk.start host r.1 r.2).Asks host task u) (hy : Fails host (task, u) y) :
      Spent host (task, u) y := by
    have hw := hr task u y ha hy
    cases task with
    | call | invoke => exact hw
    | walk | enter | render =>
      obtain ⟨v, hv⟩ := hy
      obtain ⟨_, he, h⟩ | ⟨_, _, _, h⟩ := Walk.of_bind_ends hv trivial
      · cases he
        rw [Walk.each_settled h] at hw
        cases hw
      · cases h
    | callback call body dot =>
      obtain ⟨v, hv⟩ := hy
      refine (ih _ u _ ha hv y ⟨v, hv⟩ ?_).2 rfl
      -- an error to pass on would be the one with which the call ends
      intro t w z ht hz
      cases hzw : z.isWrappable with
      | true => rfl
      | false =>
        obtain ⟨y', names, -, hl, hy'⟩ := (Walk.start_traces hp _).leaves ht hz hzw
        have hyw := hl.passes.isWrappable hzw
        rw [Fails.unique (r := (.callback call body dot, u)) hy' ⟨v, hv⟩, hw] at hyw
        cases hyw
  exact ⟨(Walk.start_traces hp r.1).origin hx spent,
    fun h ↦ (Walk.start_traces_original hp h).origin hx spent⟩

/-- An error is created by a task that fails with it, if it may not be replaced from there on, and
the task has received no error to pass on. -/
structure Creates (host : Host) (r : Request) (x : EvalError) : Prop where
  fails : r.Fails host x
  settled : x.isWrappable = false
  unhurt : r.Unhurt host

/-- An error that may not be replaced has been created at some moment. -/
theorem exists_creates (hf : r.Fails host x) (hx : x.isWrappable = false) :
    ∃ request below y, Moment host r (request :: below) ∧ request.Creates host y := by
  obtain ⟨v, hv⟩ := hf
  refine Request.induction (P := fun r ↦ ∀ x, r.Fails host x → x.isWrappable = false →
    ∃ request below y, Moment host r (request :: below) ∧ request.Creates host y) ?_ hv x ⟨v, hv⟩ hx
  intro r _ _ ih x hf hx
  by_cases hex : ∃ task u y, (Walk.start host r.1 r.2).Asks host task u ∧
      Fails host (task, u) y ∧ y.isWrappable = false
  · obtain ⟨task, u, y, ha, ⟨v, hy⟩, hw⟩ := hex
    obtain ⟨request, below, z, hm, hz⟩ := ih task u _ ha hy y ⟨v, hy⟩ hw
    exact ⟨request, below ++ [r], z, hm.of_asked ha, hz⟩
  · refine ⟨r, [], x, .start, hf, hx, fun task u y ha hy ↦ ?_⟩
    cases hw : y.isWrappable with
    | true => rfl
    | false => exact (hex ⟨task, u, y, ha, hy, hw⟩).elim

end Request

/-! ### The calls that are open -/

/-- The names of the calls that are open at a moment, the innermost first. -/
inductive OpenCalls : List Request → List String → Prop where
  | nil : OpenCalls [] []
  | cons {r : Request} {stack : List Request} {names names' : List String} :
      r.Records names → OpenCalls stack names' → OpenCalls (r :: stack) (names ++ names')

/-- There are as many names as templates that are open. -/
theorem OpenCalls.length_eq {stack : List Request} {names : List String}
    (h : OpenCalls stack names) : names.length = openTemplates stack := by
  induction h with
  | nil => rfl
  | @cons r stack names names' hr _ ih =>
    have hlen : names.length = r.1.opens.toNat := by
      cases hr with
      | enter | render => rfl
      | other h => rw [h]; rfl
    rw [List.length_append, hlen, ih, openTemplates, openTemplates, List.countP_cons, Nat.add_comm]
    cases r.1.opens with
    | true | false => rfl

/-- An error that may not be replaced leaves all open tasks and records the calls among them. -/
theorem Moment.leaves (hp : host.PassesOn) {start request : Request} {below : List Request}
    {y : EvalError} (h : Moment host start (request :: below)) (hs : start.1.opens = false)
    (hy : request.Fails host y) (hw : y.isWrappable = false) :
    ∃ x names, start.Fails host x ∧ OpenCalls (request :: below) names ∧ y.Leaves names x := by
  generalize hl : request :: below = stack at h
  induction h generalizing request below y with
  | start =>
    cases hl
    exact ⟨y, [] ++ [], hy, .cons (.other hs) .nil, .refl y⟩
  | ask _ ha ih =>
    cases hl
    obtain ⟨z, names, hr, hz, hf⟩ := (Walk.start_traces hp _).leaves ha hy hw
    obtain ⟨x, names', hx, ho, hl⟩ := ih hf (hz.passes.isWrappable hw) rfl
    exact ⟨x, names ++ names', hx, .cons hr ho, hz.trans hl⟩

/-! ### What the caller learns -/

namespace Executor

variable {e : Executor} {data : Value} {w : Writer} {r : Resources} {budget : Nat}
  {result : Rendered} {err : ExecError}

private theorem of_conclude_exec {x : EvalError} (h : (e.conclude x w).1 = .error (.exec err)) :
    err.cause = x := by
  rw [conclude] at h
  split at h
  · cases h
  · split at h
    · cases h
    · dsimp only at h
      have hreport := e.report_eq x w
      rw [execError] at hreport
      rw [hreport] at h
      split at h
      · cases h
        exact e.cause_execError x
      · cases h

private theorem of_writeRaw_error {raw : RawOutput} {w' : Writer} {x : EvalError}
    (h : writeRaw raw w = (.error x, w')) : ∃ fault, x = .write fault := by
  rw [writeRaw] at h
  split at h
  · cases h
    exact ⟨_, rfl⟩
  · split at h
    · cases h
      exact ⟨_, rfl⟩
    · cases h

/-- The walk of a template that is settled as an error other than a caught panic has failed with
it. -/
theorem of_settle_error {reply : Reply} {x : EvalError} {w' : Writer} {r' : Resources}
    (h : e.settle reply = (.error x, w', r')) (ht : x.traced = false) :
    ∃ s, reply = (.error x, s) := by
  obtain ⟨o, s⟩ := reply
  cases o with
  | ok v => cases h
  | error e' =>
    cases h
    exact ⟨s, rfl⟩
  | panic message =>
    rw [settle] at h
    split at h
    · cases h
      have htraced := (EvalError.PassesTo.locate s (.ofPanic message)).traced
      rw [ht] at htraced
      cases htraced
    · cases h

/-- An error of the evaluation that is no panic is the one with which the walk of the template has
failed, or tells that there is none to walk. -/
theorem of_finish_exec (h : e.finish host budget data w r = some result)
    (hv : result.verdict = .error (.exec err)) (ht : err.cause.traced = false) :
    (e.template.tree = none ∧ err.cause = .of (.emptyTemplate e.template.name)) ∨
      ∃ tree, e.template.tree = some tree ∧ (e.request tree data w r).Fails host err.cause := by
  rw [finish, Option.map_eq_some_iff] at h
  obtain ⟨⟨o, w', r'⟩, hrender, rfl⟩ := h
  cases o with
  | ok _ | panic _ => cases hv
  | error x =>
    have hx : err.cause = x := of_conclude_exec hv
    rw [hx] at ht ⊢
    rw [render] at hrender
    split at hrender
    · next raw _ =>
      obtain ⟨fault, rfl⟩ : ∃ fault, x = .write fault := by
        cases hraw : writeRaw raw w with
        | mk o w₁ =>
          rw [hraw] at hrender
          cases hrender
          exact of_writeRaw_error hraw
      cases hv
    · split at hrender
      · next htree =>
        cases hrender
        exact .inl ⟨htree, rfl⟩
      · next tree htree =>
        rw [Option.map_eq_some_iff] at hrender
        obtain ⟨reply, hrun, hsettle⟩ := hrender
        obtain ⟨s, rfl⟩ := of_settle_error hsettle ht
        exact .inr ⟨tree, htree, s, Walk.run_iff.mp ⟨budget, hrun⟩⟩

end Executor

/-- The error of which the caller of a render learns, if it is one of the evaluation and no panic,
has been created at some moment, and has recorded the calls that were open then. A host is trusted
with its own errors: it may make some that say that they have left calls already. -/
theorem backtrace_records {e : Executor} {data : Value} {w : Writer} {r : Resources} {budget : Nat}
    {result : Rendered} {err : ExecError} (hp : host.PassesOn)
    (hr : e.finish host budget data w r = some result)
    (hv : result.verdict = .error (.exec err)) (ht : err.cause.traced = false) :
    (e.template.tree = none → err.cause.backtrace = []) ∧
    ∀ tree, e.template.tree = some tree →
      (∃ request below x, Moment host (e.request tree data w r) (request :: below) ∧
        request.Creates host x) ∧
      ∀ request below x, Moment host (e.request tree data w r) (request :: below) →
        request.Creates host x →
          x.PassesTo err.cause ∧
          (host.Forges x ∨ ∃ names, OpenCalls (request :: below) names ∧
            err.cause.backtrace.map Frame.name = names ∧
            err.cause.backtrace.length = request.2.depth - e.depth) := by
  obtain ⟨hnone, hcause⟩ | ⟨tree, htree, hf⟩ := Executor.of_finish_exec hr hv ht
  · refine ⟨fun _ ↦ ?_, fun tree htree ↦ ?_⟩
    · rw [hcause]
      rfl
    · cases hnone.symm.trans htree
  · refine ⟨fun hnone ↦ ?_, fun tree' htree' ↦ ?_⟩
    · cases hnone.symm.trans htree
    cases htree.symm.trans htree'
    have hw : err.cause.isWrappable = false := by
      obtain ⟨u, hu⟩ := hf
      obtain ⟨_, he, h⟩ | ⟨_, _, _, h⟩ := Walk.of_bind_ends hu trivial
      · cases he
        exact Walk.each_settled h
      · cases h
    refine ⟨Request.exists_creates hf hw, fun request below x hm hc ↦ ?_⟩
    obtain ⟨y, names, hy, ho, hl⟩ := hm.leaves hp rfl hc.fails hc.settled
    cases hf.unique hy
    refine ⟨hl.passes, ?_⟩
    have horiginal : host.Original x := (Request.original hp hc.fails hc.unhurt).1.resolve_left
      (by rw [hc.settled]; nofun)
    refine horiginal.symm.imp_right fun hx ↦ ?_
    have hnames : err.cause.backtrace.map Frame.name = names := by
      rw [hl.backtrace, EvalError.backtrace, hx]
      rfl
    refine ⟨names, ho, hnames, ?_⟩
    calc err.cause.backtrace.length
        = names.length := by rw [← hnames, List.length_map]
      _ = openTemplates (request :: below) := ho.length_eq
      _ = request.2.depth - e.depth := by rw [hm.depth_eq, Nat.add_sub_cancel_left]

/-- The host without functions makes no error with calls recorded. -/
private theorem empty_not_forges (x : EvalError) : ¬ Host.empty.Forges x := by
  rintro ⟨e, he, hf, -⟩
  apply hf
  cases he with
  | plain h | build h =>
    cases h
    rfl
  | stateful h =>
    cases h with
    | finish h =>
      cases h
      rfl
    | later hb => cases hb
  | misuse h => cases h

private theorem mixed_finishes : ∃ (budget : Nat) (result : Rendered) (err : ExecError),
    Executor.mixed.finish .empty budget .invalid .unlimited (.initial .nil) = some result ∧
      result.verdict = .error (.exec err) ∧ err.cause.traced = false ∧
      err.cause.cause = .depthExceeded 2 ∧ err.cause.backtrace.map Frame.name = ["u/v", "u"] :=
  ⟨10, _, _, rfl, rfl, rfl, rfl, rfl⟩

/-- A template that is called renders one in which a call is too deep: the error has left the render
and then the call, both of which were open when it was created. -/
theorem backtrace_records_mixed : ∃ (budget : Nat) (result : Rendered) (err : ExecError)
    (tree : Tree) (request : Request) (below : List Request) (x : EvalError),
    Host.empty.PassesOn ∧
      Executor.mixed.finish .empty budget .invalid .unlimited (.initial .nil) = some result ∧
      result.verdict = .error (.exec err) ∧ err.cause.traced = false ∧
      Executor.mixed.template.tree = some tree ∧
      Moment .empty (Executor.mixed.request tree .invalid .unlimited (.initial .nil))
        (request :: below) ∧
      request.Creates .empty x ∧ x.cause = .depthExceeded 2 ∧
      OpenCalls (request :: below) ["u/v", "u"] ∧
      err.cause.backtrace.map Frame.name = ["u/v", "u"] ∧ request.2.depth = 2 := by
  obtain ⟨budget, result, err, hr, hv, ht, hcause, hnames⟩ := mixed_finishes
  have hp : Host.empty.PassesOn := fun _ _ _ ↦ .finish _
  have records := (backtrace_records hp hr hv ht).2 _ rfl
  obtain ⟨request, below, x, hm, hc⟩ := records.1
  obtain ⟨hpass, hx⟩ := records.2 request below x hm hc
  obtain ⟨names, ho, hn, hl⟩ := hx.resolve_left (empty_not_forges x)
  have hlength : err.cause.backtrace.length = 2 := by
    rw [← List.length_map (f := Frame.name), hnames]
    rfl
  refine ⟨budget, result, err, _, request, below, x, hp, hr, hv, ht, rfl, hm, hc, ?_, ?_, hnames,
    ?_⟩
  · rw [← hpass.cause, hcause]
  · rw [← hnames, hn]
    exact ho
  · rw [hlength] at hl
    exact hl.symm

end TextTemplate
