import TextTemplate.Proofs.Callback
import TextTemplate.Proofs.Coverage

/-!
# Errors at the entry of a render

An error that is fatal, a signal or located reaches the entry of the render in which it is raised,
however deep that is, and the caller of the render learns of it (`error_passes`).
-/

set_option autoImplicit false

namespace TextTemplate

variable {host : Host}

namespace Executor

/-- How a render tells of an error that reaches its entry. -/
def execError (e : Executor) (x : EvalError) : ExecError :=
  .ofCause x e.template.name (pathOfSteps e.fullPath)

/-- The error of a failed execution has the error of the render as its cause. -/
theorem cause_execError (e : Executor) (x : EvalError) : (e.execError x).cause = x := by
  rw [execError, ExecError.ofCause]
  split
  · rfl
  · rfl

/-- How the output fails where the text of an error has to be written to it. -/
def fault? (e : Executor) (x : EvalError) (w : Writer) : Option String :=
  if e.writesErrors then (w.writeText (RenderError.exec (e.execError x)).message).2 else none

end Executor

/-- What the caller of a render learns of an error that reaches its entry and leaves a writer. -/
structure Verdict.Tells (v : Verdict) (e : Executor) (x : EvalError) (w : Writer) : Prop where
  /-- An exit that is captured is no failure. -/
  ok_iff : v = .ok ↔ x.isExit = true ∧ e.captures = true
  /-- A failure of the output is told by what the output says. -/
  write : ∀ text, x.writeText? = some text → v = .error (.write text)
  /-- Anything else is told with the error as its cause. -/
  exec : v ≠ .ok → x.writeText? = none → e.fault? x w = none → v = .error (.exec (e.execError x))
  /-- What is to be written to the output and does not fit there is told by what the output says. -/
  fault : ∀ text, v ≠ .ok → x.writeText? = none → e.fault? x w = some text →
    v = .error (.write text)

variable {e : Executor} {x : EvalError} {w : Writer}

private theorem EvalError.writeText?_of_isExit (h : x.isExit = true) : x.writeText? = none := by
  have hs : x.signal = some .exit := eq_of_beq h
  rw [writeText?, hs]

/-- An error that is reported stands, unless the output does not take its text. -/
theorem Executor.report_eq (e : Executor) (x : EvalError) (w : Writer) :
    (e.report (.exec (e.execError x)) w).1 =
      match e.fault? x w with
      | none => .exec (e.execError x)
      | some fault => .write fault := by
  rw [report, fault?]
  cases e.writesErrors with
  | false => rfl
  | true =>
    obtain ⟨w', fault⟩ := w.writeText (RenderError.exec (e.execError x)).message
    cases fault with
    | none | some text => rfl

/-- An error that is told as some error is no captured exit. -/
theorem Verdict.error_ok_iff {error : RenderError} (h : ¬ (x.isExit = true ∧ e.captures = true)) :
    Verdict.error error = .ok ↔ x.isExit = true ∧ e.captures = true :=
  ⟨fun hv ↦ (nomatch hv), fun k ↦ absurd k h⟩

private theorem Executor.conclude_tells (e : Executor) (x : EvalError) (w : Writer) :
    (e.conclude x w).1.Tells e x w := by
  rw [conclude]
  split
  · next h =>
    rw [Bool.and_eq_true] at h
    have hw := EvalError.writeText?_of_isExit h.1
    exact {
      ok_iff := ⟨fun _ ↦ h, fun _ ↦ rfl⟩
      write := fun _ ht ↦ nomatch hw.symm.trans ht
      exec := fun hv ↦ absurd rfl hv
      fault := fun _ hv ↦ absurd rfl hv }
  · next h =>
    rw [Bool.and_eq_true] at h
    cases hw : x.writeText? with
    | some text =>
      exact {
        ok_iff := Verdict.error_ok_iff h
        write := fun _ ht ↦ by rw [Option.some.inj (hw.symm.trans ht)]
        exec := fun _ hn ↦ nomatch hw.symm.trans hn
        fault := fun _ _ hn ↦ nomatch hw.symm.trans hn }
    | none =>
      have hreport : (e.report (.exec (.ofCause x e.template.name (pathOfSteps e.fullPath))) w).1 =
          _ := e.report_eq x w
      refine ⟨Verdict.error_ok_iff h, fun _ ht ↦ (nomatch hw.symm.trans ht), ?_, ?_⟩
      · intro _ _ hf
        rw [hf] at hreport
        exact congrArg Verdict.error hreport
      · intro _ _ _ hf
        rw [hf] at hreport
        exact congrArg Verdict.error hreport

/-! ### A function that fails -/

/-- A fatal error. -/
def boomError : EvalError := (EvalError.new "boom").intoFatal

/-- Runs the callback whose handle is given. -/
def runGiven (args : List Value) : Program Results :=
  match args with
  | [dot, .block handle] => .runBlock handle dot [] false (Program.orFail fun _ ↦ .done .nothing)
  | _ => .fail .needsRender

/-- A host with a function that fails fatally, and one that runs the callback whose handle it
gets. -/
def boomHost : Host where
  plain _ _ _ := .fail boomError
  stateful _ _ args := runGiven args
  build _ _ := .fail .needsRender

private theorem boomHost_passesOn : boomHost.PassesOn := by
  intro id context args
  show (runGiven args).PassesOn boomHost
  unfold runGiven
  split
  · exact .orFail rfl fun _ ↦ .finish _
  · exact .finish _

/-- The node that calls the function that fails. -/
def boomNode : Node := .action ⟨0, 0⟩ (.ofForms [[.identifier "boom"]])

/-- The executor of a template with the two functions, beside a template that calls the one that
fails. -/
def boomExecutor (tree : Tree) : Executor :=
  let set := ((TemplateSet.empty "t").add (.ofNodes "u" [boomNode])).2
  (Executor.root set ⟨"t", some tree, .empty⟩ 0).withScope
    ⟨[[("boom", .direct (.mk ⟨.exactly 0, .nothing⟩ false (.host 0) [] none none)),
      ("run", .direct (.mk ⟨.exactly 2, .nothing⟩ true (.host 1) [] none none))]]⟩ 0

/-- A template that calls the other one in the body of a callback. -/
def boomTree : Tree :=
  .ofNodes "t" [.branch .scope ⟨0, 0⟩ (.ofForms [[.text "x"]])
    [.callback [[.identifier "run"]] [.template ⟨0, 0⟩ "u" none]] none]

/-- An executor that writes its errors to the output. -/
def loudExecutor (tree : Tree) : Executor := (boomExecutor tree).withPolicy .force 0

/-- The first node of a template is a part of the walk. -/
theorem Parts.first_node {n : Node} {rest : List Node} {dot : Value} {s : State} :
    Parts host ⟨Walk.each host dot (n :: rest), s⟩
      ⟨Walk.node host dot n, { s with place := some (n.span, .node n) }⟩ :=
  .head (.next (.done _)) (.head .first (.single .located))

/-- An error that is no signal is told as one of the output, where its text has to be written to an
output that takes no more. -/
theorem not_exec_unwritable : ∃ (tree : Tree) (request : Request) (below : List Request)
    (budget : Nat) (result : Rendered),
    boomHost.PassesOn ∧
      Moment boomHost ((loudExecutor tree).request tree .invalid (.limited 0 "sink full")
        (.initial .nil)) (request :: below) ∧
      (∃ part, Parts boomHost ⟨Walk.start boomHost request.1, request.2⟩ part ∧
        part.Fails boomHost boomError) ∧
      boomError.isWrappable = false ∧ boomError.isSignal = false ∧
      (loudExecutor tree).finish boomHost budget .invalid (.limited 0 "sink full")
        (.initial .nil) = some result ∧
      result.verdict = .error (.write "sink full") :=
  ⟨.ofNodes "t" [boomNode], _, [], 2, _, boomHost_passesOn, .start,
    ⟨_, .head .first Parts.first_node, _, .value rfl⟩, rfl, rfl, rfl, rfl⟩

private theorem boom_raised : ∃ (request : Request) (below : List Request),
    Moment boomHost ((boomExecutor boomTree).request boomTree .invalid .unlimited (.initial .nil))
      (request :: below) ∧ below.length = 5 ∧
      ∃ part, Parts boomHost ⟨Walk.start boomHost request.1, request.2⟩ part ∧
        part.Fails boomHost boomError :=
  -- the scope, the callback, its invocation, its body and the called template
  ⟨(.enter _ _, _), _,
    .ask (.ask (.ask (.ask (.ask .start (.first rfl)) (.first rfl)) (.first rfl)) (.first rfl))
      (.first rfl),
    rfl, _, .head .first Parts.first_node, _, .value rfl⟩

/-! ### Errors that are passed on -/

/-- An error that is fatal, a signal or located reaches the entry of the render, from whatever part
of whatever task that runs at some moment, if the functions of the host pass on errors. On its way
it may be given a site and a span that it does not have, and frames are added to it. The caller of
the render learns of it. -/
theorem error_passes {tree : Tree} {data : Value} {r : Resources} {request : Request}
    {below : List Request} {part : Act} (hp : host.PassesOn) (he : e.raw = none)
    (ht : e.template.tree = some tree)
    (running : Moment host (e.request tree data w r) (request :: below))
    (hpart : Parts host ⟨Walk.start host request.1, request.2⟩ part)
    (hx : x.isWrappable = false) (raised : part.Fails host x) :
    ∃ x' w' r', x.PassesTo x' ∧
      (∃ budget, e.render host budget data w r = some (.error x', w', r')) ∧
      (∃ budget result, e.finish host budget data w r = some result) ∧
      ∀ budget result, e.finish host budget data w r = some result →
        result.verdict.Tells e x' w' := by
  obtain ⟨x', hpass, u, hend⟩ := Parts.relays hp (running.parts.trans hpart) x hx raised
  obtain ⟨budget, hrender⟩ := Executor.exists_render_eq he ht hend
  let concluded := e.conclude x' u.writer
  have hfinish : e.finish host budget data w r =
      some ⟨concluded.1, concluded.2, u.resources⟩ := by
    rw [Executor.finish, hrender]
    rfl
  refine ⟨x', u.writer, u.resources, hpass, ⟨budget, hrender⟩, ⟨budget, _, hfinish⟩, ?_⟩
  intro budget' result hresult
  rw [Executor.finish_unique hresult hfinish]
  exact e.conclude_tells x' u.writer

/-- A function fails in a template that is called in the body of a callback. -/
theorem error_passes_boom : ∃ (request : Request) (below : List Request) (part : Act),
    boomHost.PassesOn ∧
      Moment boomHost ((boomExecutor boomTree).request boomTree .invalid .unlimited
        (.initial .nil)) (request :: below) ∧
      below.length = 5 ∧ Parts boomHost ⟨Walk.start boomHost request.1, request.2⟩ part ∧
      boomError.isWrappable = false ∧ part.Fails boomHost boomError ∧
      ∃ budget result err, (boomExecutor boomTree).finish boomHost budget .invalid .unlimited
          (.initial .nil) = some result ∧
        result.verdict = .error (.exec err) ∧ boomError.PassesTo err.cause := by
  obtain ⟨request, below, running, hlen, part, hpart, raised⟩ := boom_raised
  refine ⟨request, below, part, boomHost_passesOn, running, hlen, hpart, rfl, raised, ?_⟩
  obtain ⟨x', w', r', hpass, -, ⟨budget, result, hfinish⟩, htells⟩ :=
    error_passes boomHost_passesOn rfl rfl running hpart rfl raised
  have htells := htells budget result hfinish
  refine ⟨budget, result, (boomExecutor boomTree).execError x', hfinish, ?_, ?_⟩
  · have hsignal : x'.signal = none := hpass.signal
    refine htells.exec ?_ ?_ rfl
    · rw [ne_eq, htells.ok_iff, EvalError.isExit, hsignal]
      nofun
    · rw [EvalError.writeText?, hsignal]
  · rw [Executor.cause_execError]
    exact hpass

end TextTemplate
