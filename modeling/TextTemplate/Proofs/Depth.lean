import TextTemplate.Proofs.Callback
import TextTemplate.Proofs.Ending
import TextTemplate.Proofs.Nesting

/-!
# The depth of calls

A render counts how deep templates nest: those that are called and those that are rendered by a
function. The number is that of the executor at the start, and at every moment one more for each
call that is open (`depth_counts`), in whatever way the calls before it ended. A template is walked
only below the limit, unless the executor is beyond it from the start. A template that cannot be had
is refused alike by a call and by a nested render (`State.Refuses`).
-/

set_option autoImplicit false

namespace TextTemplate

variable {host : Host}

/-- Whether a task walks another template: one that is called, or one that a function renders. -/
def Task.opens (t : Task) : Bool := t.isEnter || t.isRender

/-- How many templates are open at a moment, not counting the one that the render began with. -/
def openTemplates (stack : List Request) : Nat := stack.countP fun r ↦ r.1.opens

/-- A task is asked for one deeper just where it walks another template, and that only below the
limit. The set of templates and the limit stay the same. -/
structure Deepens (s : State) (task : Task) (u : State) : Prop where
  depth : u.depth = s.depth + task.opens.toNat
  set : u.exec.set = s.exec.set
  limit : u.exec.options.depthLimit = s.exec.options.depthLimit
  below : task.opens = true → s.depth < s.exec.options.depthLimit

private theorem Deepens.inner {s u : State} {task : Task} (hd : u.depth = s.depth)
    (he : u.exec = s.exec) (ht : task.opens = false) : Deepens s task u where
  depth := by rw [hd, ht]; rfl
  set := by rw [he]
  limit := by rw [he]
  below ho := absurd ho (by rw [ht]; nofun)

/-- A nested render begins one deeper than its caller, with its set and its limit. -/
theorem Walk.nestedState_deepens {s u : State} {name : String} {template : Template} {tree : Tree}
    (data : Value) (hc : s.callee name = .ok template) (hu : Level host s u) :
    Deepens s (.render tree.root (nestedState u template data).data)
      (nestedState u template data) := by
  have hd := (State.of_callee hc).2
  have nested (exec : Executor) (inner : Value) (r : Resources) (hdepth : exec.depth = u.depth + 1)
      (hset : exec.set = u.exec.set)
      (hlimit : exec.options.depthLimit = u.exec.options.depthLimit) :
      Deepens s (.render tree.root inner) (.initial exec inner .unlimited r) :=
    ⟨by rw [← hu.depth]; exact hdepth, by rw [← hu.exec]; exact hset,
      by rw [← hu.exec]; exact hlimit, fun _ ↦ hd⟩
  simp only [nestedState]
  split
  · exact nested _ _ _ rfl rfl rfl
  · exact nested _ _ _ rfl rfl rfl

private theorem State.Requests.deepens {calls : Value → List Value → Prop} {s u : State}
    {task : Task} (h : s.Requests host calls task u) : Deepens s task u := by
  cases h with
  | call _ hu | invoke hu | capture hu | before _ _ hu => exact .inner hu.depth hu.exec rfl
  | render hc _ hu => exact Walk.nestedState_deepens _ hc hu

private theorem Node.Requests.deepens {n : Node} {s u : State} {task : Task}
    (h : n.Requests host s task u) : Deepens s task u := by
  cases h with
  | eval h => exact h.deepens
  | part _ hu | content hu | argument hu | callback hu => exact .inner hu.depth hu.exec rfl
  | enter hc _ hu =>
    refine ⟨?_, ?_, ?_, fun _ ↦ (State.of_callee hc).2⟩
    · exact congrArg (· + 1) hu.depth
    · exact congrArg Executor.set hu.exec
    · exact congrArg (fun x : Executor ↦ x.options.depthLimit) hu.exec

/-- The step of the count: from one open task to the next. -/
theorem Run.Asks.deepens {r : Request} {task : Task} {u : State}
    (h : (Walk.start host r.1 r.2).Asks host task u) : Deepens r.2 task u := by
  obtain ⟨t, s⟩ := r
  have ha := (Walk.start_meets t s).asked Walk.start_meets h
  cases t with
  | walk nodes dot | enter nodes dot | render nodes dot =>
    obtain ⟨n, -, hn⟩ := ha
    exact hn.deepens
  | call f args => exact State.Requests.deepens ha
  | invoke handle dot args =>
    obtain ⟨b, -, rfl, rfl⟩ := ha
    exact .inner rfl rfl rfl
  | callback call body dot =>
    have hd : Deepens (Walk.openBlock body s) task u := State.Requests.deepens ha
    exact ⟨hd.depth, hd.set, hd.limit, hd.below⟩

/-! ### Nodes that are walked -/

/-- A task walks nodes with a dot. -/
inductive Task.Walks : Task → List Node → Value → Prop where
  | walk (nodes : List Node) (dot : Value) : Walks (.walk nodes dot) nodes dot
  | enter (nodes : List Node) (dot : Value) : Walks (.enter nodes dot) nodes dot
  | render (nodes : List Node) (dot : Value) : Walks (.render nodes dot) nodes dot

/-- The innermost task comes to walk a node in a state, after the nodes before it. -/
inductive Request.Reaches (host : Host) (r : Request) : Node → Value → State → Prop where
  | node {before after : List Node} {n : Node} {dot : Value} {u : State} :
      r.1.Walks (before ++ n :: after) dot → (Walk.each host dot before r.2).Ends host (.ok (), u) →
        Reaches host r n dot { u with place := some (n.span, .node n) }

/-- A task comes to its first node at once. -/
theorem Request.Reaches.first {r : Request} {n : Node} {rest : List Node} {dot : Value}
    (h : r.1.Walks (n :: rest) dot) :
    r.Reaches host n dot { r.2 with place := some (n.span, .node n) } :=
  @node host r [] rest n dot r.2 h (.done _)

private theorem Request.Reaches.level {r : Request} {n : Node} {dot : Value} {s : State}
    (h : r.Reaches host n dot s) : Level host r.2 s := by
  cases h with
  | @node before _ _ _ u _ hu =>
    have kept : (Walk.each host dot before).Keeps host (fun _ _ ↦ True) (Answers host)
        (Level host r.2) := Walk.each_keeps before fun _ _ _ _ _ ↦ trivial
    have hl : Level host r.2 u := (kept r.2 (.refl _)).ends Walk.start_meets hu
    exact hl.withPlace _

private theorem Walk.node_level {n : Node} {dot : Value} {s v : State} {o : Outcome Unit}
    (h : (node host dot n s).Ends host (o, v)) (ho : o.Returned) : Level host s v := by
  have kept : LeavesNode host n s (o, v) := (node_meets n).ends start_meets h
  cases o with
  | ok _ | error _ => exact kept.1
  | panic _ => exact ho.elim

/-! ### Templates that are refused -/

/-- The built-in functions that render other templates. -/
def Builtin.renders : List Builtin := [.templateExec, .tplRender, .tplYield]

/-- A template is refused with an error in whatever way it is asked for, and the state stays as it
is: by a call, and by a nested render, also one that a function asks for, which tells the error
under its own name. -/
structure State.Refuses (host : Host) (s : State) (name : String) (x : EvalError) : Prop where
  call : ∀ span pipe dot,
    Walk.node host dot (.template span name pipe) s = .done (.error x, s)
  nested : ∀ given, Walk.renderNested name given s = .done (.error x, s)
  function : ∀ b ∈ Builtin.renders, ∀ func given,
    Walk.callFunction host (.ofBuiltin b) func (.text name :: Option.toList given) s =
      .done (.error (.callFailed func x), s)

/-- A template of the set is not to be had at the limit. -/
theorem State.callee_exceeded {s : State} {name : String} (hn : s.exec.set.lookup name ≠ none)
    (hd : s.exec.options.depthLimit ≤ s.depth) :
    s.callee name = .error (.of (.depthExceeded s.exec.options.depthLimit)) := by
  obtain ⟨template, hl⟩ := Option.ne_none_iff_exists'.mp hn
  rw [callee, hl]
  exact if_pos hd

/-- A template that the set does not have is told as undefined, before the depth is looked at. -/
theorem State.callee_undefined {s : State} {name : String} (hn : s.exec.set.lookup name = none) :
    s.callee name = .error (.of (.undefinedTemplate name)) := by
  rw [callee, hn]

/-- A call fails at once as the program of its function does, under its name. -/
private theorem Walk.callFunction_done {s : State} {f : Function} {name : String}
    {args : List Value} {x : EvalError} (ha : f.arity.accepts args.length = true)
    (hp : program host (f.body host args) s = .done (.error x, s)) (hx : x.isWrappable = true) :
    callFunction host f name args s = .done (.error (.callFailed name x), s) := by
  rw [callFunction, Function.checkArity, ha, Function.program_of_accepts ha]
  show (((program host (f.body host args)).after _).attempt >>= _) s = _
  rw [bind_run, attempt, after, bind_run, attempt, hp]
  simp only [Run.bind, modify_bind, ofExcept, fail, hx, if_true]

/-- A function that would render a template fails as the nested render does, with its own name. -/
private theorem Walk.callFunction_refused {s : State} {callee : String} {x : EvalError}
    {b : Builtin} (hb : b ∈ Builtin.renders) (hx : x.isWrappable = true)
    (run : ∀ given, renderNested callee given s = .done (.error x, s)) (name : String)
    (data : Option Value) :
    callFunction host (.ofBuiltin b) name (.text callee :: data.toList) s =
      .done (.error (.callFailed name x), s) := by
  let args : List Value := .text callee :: data.toList
  have rendered (next : String → Program Results) :
      program host (.render callee data (Program.orFail next)) s = .done (.error x, s) := by
    show ((renderNested callee (data.getD .invalid)).attempt >>= _) s = _
    rw [bind_run, attempt, run]
    rfl
  have yielded (next : Unit → Program Results) :
      program host (.yield callee data (Program.orFail next)) s = .done (.error x, s) := by
    show ((renderNested callee (data.getD .invalid) >>= write).attempt >>= _) s = _
    rw [bind_run, attempt, bind_run, run]
    rfl
  have taken (func : String) : RenderFunction.templateArgs func args = .ok (callee, data) := by
    cases data <;> rfl
  have templateExec : program host (RenderFunction.templateExec args) s = .done (.error x, s) := by
    rw [RenderFunction.templateExec, taken]
    exact rendered _
  have tplYield : program host (RenderFunction.tplYield args) s = .done (.error x, s) := by
    rw [RenderFunction.tplYield, taken]
    exact yielded _
  simp only [Builtin.renders, List.mem_cons, List.not_mem_nil, or_false] at hb
  have accepted : (Function.ofBuiltin b).arity.accepts args.length = true := by
    rcases hb with rfl | rfl | rfl <;> cases data <;> rfl
  apply callFunction_done accepted _ hx
  rcases hb with rfl | rfl | rfl
  · exact templateExec
  · exact templateExec
  · exact tplYield

/-- A template that is not to be had is refused, with the error that says why. -/
theorem State.Refuses.of_callee {s : State} {name : String} {x : EvalError}
    (hc : s.callee name = .error x) (hx : x.isWrappable = true) : s.Refuses host name x := by
  have nested (given : Value) : Walk.renderNested name given s = .done (.error x, s) := by
    rw [Walk.renderNested, hc]
  refine ⟨?_, nested, ?_⟩
  · intro span pipe dot
    show Walk.callTemplate host span name pipe dot s = _
    rw [Walk.callTemplate, Walk.read_bind, hc]
    rfl
  · intro b hb func given
    exact Walk.callFunction_refused hb hx nested func given

/-! ### The depth at every moment -/

namespace Moment

variable {e : Executor} {tree : Tree} {data : Value} {w : Writer} {r : Resources}
  {request : Request} {below : List Request}

/-- All of a render has the set and the limit of its executor. -/
theorem limit_eq (h : Moment host (e.request tree data w r) (request :: below)) :
    request.2.exec.set = e.set ∧ request.2.exec.options.depthLimit = e.options.depthLimit := by
  generalize hl : request :: below = stack at h
  induction h generalizing request below with
  | start =>
    cases hl
    exact ⟨rfl, rfl⟩
  | ask _ ha ih =>
    cases hl
    obtain ⟨hset, hlimit⟩ := ih rfl
    exact ⟨ha.deepens.set.trans hset, ha.deepens.limit.trans hlimit⟩

/-- The depth is that of the executor, and one more for each template that is open. -/
theorem depth_eq (h : Moment host (e.request tree data w r) (request :: below)) :
    request.2.depth = e.depth + openTemplates (request :: below) := by
  generalize hl : request :: below = stack at h
  induction h generalizing request below with
  | start =>
    cases hl
    rfl
  | @ask task s stack parent _ ha ih =>
    cases hl
    have hcount : openTemplates ((task, s) :: parent :: stack) =
        openTemplates (parent :: stack) + task.opens.toNat := by
      rw [openTemplates, List.countP_cons]
      cases task.opens <;> rfl
    rw [ha.deepens.depth, ih rfl, hcount, Nat.add_assoc]

/-- The depth stays within the limit, unless the executor is beyond it. -/
theorem depth_le (h : Moment host (e.request tree data w r) (request :: below)) :
    request.2.depth ≤ max e.options.depthLimit e.depth := by
  generalize hl : request :: below = stack at h
  induction h generalizing request below with
  | start =>
    cases hl
    exact Nat.le_max_right ..
  | @ask task s stack parent hm ha ih =>
    cases hl
    have hd := ha.deepens.depth
    cases ho : task.opens with
    | false =>
      rw [ho] at hd
      exact hd ▸ ih rfl
    | true =>
      have hlt := ha.deepens.below ho
      rw [hm.limit_eq.2] at hlt
      rw [ho] at hd
      exact hd ▸ Nat.le_trans hlt (Nat.le_max_left ..)

end Moment

/-! ### A name that the set does not have -/

/-- An executor at its limit, of a template that calls one that the set does not have. -/
def Executor.callingUndefined : Executor :=
  let e := root (.empty "t")
    ⟨"t", some (.ofNodes "t" [.template ⟨0, 0⟩ "nope" none]), .empty⟩ 0
  { e with options := { e.options with maxDepth := some 0 } }

/-- A call at the limit of a template that the set does not have is told as that. -/
theorem not_exceeded_undefined : ∃ (tree : Tree) (n : Node) (s : State) (budget : Nat)
    (result : Rendered) (err : ExecError),
    Executor.callingUndefined.template.tree = some tree ∧
      (Executor.callingUndefined.request tree .invalid .unlimited (.initial .nil)).Reaches .empty
        n .invalid s ∧
      n = .template ⟨0, 0⟩ "nope" none ∧
      Executor.callingUndefined.options.depthLimit ≤ s.depth ∧
      Walk.node .empty .invalid n s = .done (.error (.of (.undefinedTemplate "nope")), s) ∧
      Executor.callingUndefined.finish .empty budget .invalid .unlimited (.initial .nil) =
        some result ∧
      result.verdict = .error (.exec err) ∧ err.cause.cause = .undefinedTemplate "nope" :=
  ⟨_, _, _, 1, _, _, rfl, .first (.walk _ _), rfl,
    Nat.le_refl 0, rfl, rfl, rfl, rfl⟩

/-! ### Depth in general -/

/-- At every moment of a render, the depth is that of its executor and one more for each template
that is called or rendered by a function and has not ended. It is the same at every node that the
innermost task walks, and the same after the node and after the task, however they return. It does
not exceed the limit, unless the executor does. At the limit, a template that the set has is refused
with nothing done, and one that the set does not have is refused as undefined at any depth: so is
the call, and so is a function that would render it, under its own name. -/
theorem depth_counts {host : Host} {e : Executor} {tree : Tree} {data : Value} {w : Writer}
    {r : Resources} {request : Request} {below : List Request}
    (h : Moment host (e.request tree data w r) (request :: below)) :
    request.2.depth = e.depth + openTemplates (request :: below) ∧
    request.2.depth ≤ max e.options.depthLimit e.depth ∧
    (∀ o v, (Walk.start host request.1 request.2).Ends host (o, v) → o.Returned →
      v.depth = request.2.depth) ∧
    (∀ n dot s, request.Reaches host n dot s →
      s.depth = request.2.depth ∧
      s.exec.set = e.set ∧ s.exec.options.depthLimit = e.options.depthLimit ∧
      ∀ o v, (Walk.node host dot n s).Ends host (o, v) → o.Returned → v.depth = s.depth) ∧
    (∀ (s : State) name, s.exec.set = e.set →
      s.exec.options.depthLimit = e.options.depthLimit → e.set.lookup name ≠ none →
      e.options.depthLimit ≤ s.depth →
      s.Refuses host name (.of (.depthExceeded e.options.depthLimit))) ∧
    ∀ (s : State) name, s.exec.set = e.set → e.set.lookup name = none →
      s.Refuses host name (.of (.undefinedTemplate name)) := by
  refine ⟨h.depth_eq, h.depth_le, ?_, ?_, ?_, ?_⟩
  · intro o v hv ho
    exact (Walk.start_level hv ho).depth
  · intro n dot s hs
    refine ⟨hs.level.depth, ?_, ?_, ?_⟩
    · rw [hs.level.exec]
      exact h.limit_eq.1
    · rw [hs.level.exec]
      exact h.limit_eq.2
    · intro o v hv ho
      exact (Walk.node_level hv ho).depth
  · intro s name hset hlimit hn hd
    rw [← hset] at hn
    rw [← hlimit] at hd ⊢
    exact .of_callee (State.callee_exceeded hn hd) rfl
  · intro s name hset hn
    rw [← hset] at hn
    exact .of_callee (State.callee_undefined hn) rfl

/-- A node that renders a template to text. -/
def Node.rendering (name : String) : Node :=
  .action ⟨0, 0⟩ (.ofForms [[.identifier "template_exec", .text name]])

/-- An executor of a template that calls one that renders one that calls itself. -/
def Executor.mixed : Executor :=
  let set := ((TemplateSet.empty "t").add (.ofNodes "u" [.rendering "v"])).2
  let set := (set.add (.ofNodes "v" [.template ⟨0, 0⟩ "v" none])).2
  let e := root set ⟨"t", some (.ofNodes "t" [.template ⟨0, 0⟩ "u" none]), .empty⟩ 0
  { e with options := { e.options with maxDepth := some 2 } }

/-- The body of the template that is rendered, within that of the one that is called. -/
private theorem mixed_moment : ∃ (tree : Tree) (request : Request) (below : List Request) (n : Node)
    (s : State),
    Executor.mixed.template.tree = some tree ∧
      Moment .empty (Executor.mixed.request tree .invalid .unlimited (.initial .nil))
        (request :: below) ∧
      openTemplates (request :: below) = 2 ∧ request.Reaches .empty n .invalid s ∧
      n = .template ⟨0, 0⟩ "v" none :=
  ⟨_, (.render _ _, _), _, _, _, rfl, .ask (.ask .start (.first rfl)) (.first rfl), rfl,
    .first (.render _ _), rfl⟩

/-- Within a template that is called and one that is rendered, the depth is 2, and no further call
is made where that is the limit. -/
theorem depth_counts_mixed : ∃ (tree : Tree) (request : Request) (below : List Request)
    (s : State),
    Moment .empty (Executor.mixed.request tree .invalid .unlimited (.initial .nil))
        (request :: below) ∧
      openTemplates (request :: below) = 2 ∧ request.2.depth = 2 ∧
      request.Reaches .empty (.template ⟨0, 0⟩ "v" none) .invalid s ∧ s.depth = 2 ∧
      Walk.node .empty .invalid (.template ⟨0, 0⟩ "v" none) s =
        .done (.error (.of (.depthExceeded 2)), s) := by
  obtain ⟨tree, request, below, n, s, -, running, hopen, hreach, rfl⟩ := mixed_moment
  obtain ⟨hdepth, -, -, hnodes, hlimit, -⟩ := depth_counts running
  have hd : request.2.depth = 2 := by
    rw [hdepth, hopen]
    rfl
  obtain ⟨hs, hset, hmax, -⟩ := hnodes _ _ _ hreach
  rw [hd] at hs
  refine ⟨tree, request, below, s, running, hopen, hd, hreach, hs, ?_⟩
  have hv : Executor.mixed.set.lookup "v" ≠ none := nofun
  exact (hlimit s "v" hset hmax hv (Nat.le_of_eq hs.symm)).call ..

end TextTemplate
