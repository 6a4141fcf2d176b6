import TextTemplate.Execute
import TextTemplate.Proofs.CallbackFree

/-!
# Termination

Without functions of a host, a render comes to an end exactly if there is a bound on how often the
body of a callback is run within itself. That bound, the depth of template calls and the sizes of
the templates then bound how deep tasks nest. Without callbacks the bound is there; with them,
nothing in a render sees to it: a handle that is kept can be used by the body of its own callback.
-/

set_option autoImplicit false

namespace TextTemplate

/-! ### Calls of function values -/

/-- The size of what is called. -/
noncomputable def Task.size : Task → Nat
  | .call f args => sizeOf f + sizeOf args
  | _ => 0

private theorem Value.sizeOf_indirect_le (v : Value) : sizeOf v.indirect ≤ sizeOf v := by
  fun_induction Value.indirect v with
  | case1 v cell ih =>
    rw [Value.some.sizeOf_spec]
    omega
  | case2 => exact Nat.le_refl _

private theorem Value.sizeOf_append (vs more : List Value) :
    sizeOf (vs ++ more) + 1 = sizeOf vs + sizeOf more := by
  induction vs with
  | nil =>
    rw [List.nil_append, List.nil.sizeOf_spec]
    omega
  | cons v rest ih =>
    rw [List.cons_append, List.cons.sizeOf_spec, List.cons.sizeOf_spec]
    omega

private theorem Value.sizeOf_head_tail (vs : List Value) :
    sizeOf (vs.headD .invalid) + sizeOf vs.tail ≤ sizeOf vs + 1 := by
  cases vs with
  | nil => exact Nat.le_refl _
  | cons v rest =>
    rw [List.headD_cons, List.tail_cons, List.cons.sizeOf_spec]
    omega

/-- Without a host, a function calls at most what it was given. -/
theorem Function.program_within_smaller {g : Function} {f : Value} {args : List Value}
    (hf : f.indirect = .func (.direct g)) (ha : g.arity.accepts args.length = true) :
    (g.program .empty args).Within .empty
      fun f' args' ↦ sizeOf f' + sizeOf args' < sizeOf f + sizeOf args := by
  rw [program_of_accepts ha, body]
  obtain ⟨signature, stateful, code, bound, context, owner⟩ := g
  split
  · apply (Builtin.stateful_ordinary _ _).within
    have hg := Value.sizeOf_indirect_le f
    rw [hf, Value.func.sizeOf_spec, FuncValue.direct.sizeOf_spec, Function.mk.sizeOf_spec] at hg
    have ha := Value.sizeOf_append bound args
    have hh := Value.sizeOf_head_tail (bound ++ args)
    show sizeOf ((bound ++ args).headD .invalid) + sizeOf (bound ++ args).tail < _
    omega
  · split
    · exact Program.within_fail _
    · exact Program.within_fail _

/-- Without a host, a call of a function value asks for smaller calls. -/
theorem Run.Asks.size_lt {f : Value} {args : List Value} {s u : State} {task : Task}
    (h : (Walk.start .empty (.call f args) s).Asks .empty task u)
    (hs : ∀ entry ∈ s.built, Host.Builds .empty entry.1 entry.2) (ht : task.isCall) :
    task.size < (Task.call f args).size := by
  have hb (id : Nat) (g : Function) : ¬ Host.Builds .empty id g := by
    rintro ⟨context, r, r', hr⟩
    cases hr
  have hf (value : FuncValue) (g : Function) (hv : f.indirect = .func value)
      (hg : value.Resolves .empty s g) (ha : g.arity.accepts args.length = true) :
      (g.program .empty args).Within .empty
        fun f' args' ↦ sizeOf f' + sizeOf args' < sizeOf f + sizeOf args := by
    cases value with
    | direct f' =>
      cases hg
      exact Function.program_within_smaller hv ha
    | contextBound id => exact (hb id g (hg.elim (hs (id, g)) fun h ↦ h)).elim
  cases (Walk.callValue_keeps hf s (.refl s)).asked Walk.start_meets h with
  | call hc _ => exact hc
  | invoke | capture | before | render => cases ht

/-! ### Runs that end -/

section

variable {host : Host} {start : Request}

/-- A run ends if all tasks that it asks for do. -/
theorem Run.exists_ends {α : Type} {x : Run α}
    (h : ∀ task s, x.Asks host task s → ∃ r, (Walk.start host task s).Ends host r) :
    ∃ a, x.Ends host a := by
  induction x with
  | done a => exact ⟨a, .done a⟩
  | ask task s next ih =>
    obtain ⟨r, hr⟩ := h task s .now
    obtain ⟨a, ha⟩ := ih r fun t u hu ↦ h t u (.later hr hu)
    exact ⟨a, .ask hr ha⟩

/-- A moment is the start, or one of a task that the start asks for. -/
theorem Moment.eq_or_asked {stack : List Request} (h : Moment host start stack) :
    stack = [start] ∨ ∃ task s above, (Walk.start host start.1 start.2).Asks host task s ∧
      Moment host (task, s) above ∧ stack = above ++ [start] := by
  induction h with
  | start => exact .inl rfl
  | @ask task s stack parent hm ha ih =>
    right
    rcases ih with hs | ⟨t, u, above, ht, hu, hs⟩
    · cases hs
      exact ⟨task, s, [(task, s)], ha, .start, rfl⟩
    · cases above with
      | nil => cases hu
      | cons request above =>
        obtain ⟨rfl, rfl⟩ := List.cons.inj hs
        exact ⟨t, u, (task, s) :: parent :: above, ht, .ask hu ha, rfl⟩

/-- The tasks of a run that ends nest to a finite depth. -/
theorem Run.Ends.exists_length_le {α : Type} {x : Run α} {a : α} (h : x.Ends host a) :
    ∃ bound, ∀ task s, x.Asks host task s → ∀ stack, Moment host (task, s) stack →
      stack.length ≤ bound := by
  induction h with
  | done => exact ⟨0, fun _ _ ha ↦ nomatch ha⟩
  | @ask _ task s next r a hr _ ihr iha =>
    obtain ⟨m, hm⟩ := ihr
    obtain ⟨n, hn⟩ := iha
    refine ⟨m + n + 1, ?_⟩
    intro t u ha stack hs
    cases ha with
    | now =>
      rcases hs.eq_or_asked with rfl | ⟨t, u, above, ht, hu, rfl⟩
      · exact Nat.le_add_left ..
      · have := hm t u ht above hu
        rw [List.length_append, List.length_singleton]
        omega
    | later hr' ha =>
      cases hr.unique hr'
      have := hn t u ha stack hs
      omega

private theorem running_le_length (handle : Nat) (stack : List Request) :
    running handle stack ≤ stack.length := by
  induction stack with
  | nil => exact Nat.le_refl _
  | cons r rest ih =>
    rw [running, List.length_cons]
    split
    · exact Nat.zero_le _
    · have := Bool.toNat_le (r.1.invokes handle)
      omega

/-- The moments of a task that ends are bounded. -/
theorem Request.exists_length_le (start : Request) {reply : Reply}
    (h : (Walk.start host start.1 start.2).Ends host reply) :
    ∃ bound, ∀ stack, Moment host start stack → stack.length ≤ bound := by
  obtain ⟨bound, hb⟩ := h.exists_length_le
  refine ⟨bound + 1, ?_⟩
  intro stack hs
  rcases hs.eq_or_asked with rfl | ⟨task, s, above, ht, hu, rfl⟩
  · exact Nat.le_add_left ..
  · rw [List.length_append]
    exact Nat.succ_le_succ (hb task s ht above hu)

private theorem Request.exists_bounded (start : Request) {reply : Reply}
    (h : (Walk.start host start.1 start.2).Ends host reply) :
    ∃ rounds, start.Bounded host rounds := by
  obtain ⟨bound, hb⟩ := start.exists_length_le h
  refine ⟨bound, ?_⟩
  intro stack hs handle
  have hlength := hb stack hs
  have hrunning := running_le_length handle stack
  omega

end

/-! ### Renders that return -/

section

variable {e : Executor} {tree : Tree} {data : Value} {w : Writer} {r : Resources} {rounds : Nat}

/-- A render returns, given budget enough, if the walk of its template ends. -/
theorem Executor.exists_render_iff {host : Host} (he : e.raw = none)
    (ht : e.template.tree = some tree) :
    (∃ budget, (e.render host budget data w r).isSome) ↔
      ∃ reply, (Walk.start host (.walk tree.root data) (.initial e data w r)).Ends host reply := by
  have hrender (budget : Nat) : (e.render host budget data w r).isSome =
      (Walk.run host budget tree.root data (.initial e data w r)).isSome := by
    rw [render, he, ht, Option.isSome_map]
  simp only [hrender, Option.isSome_iff_exists, ← Walk.run_iff]
  exact exists_comm

/-- Where the moments of a render are bounded, every task in it ends. -/
theorem Moment.exists_ends (hb : (e.request tree data w r).Bounded .empty rounds)
    {request : Request} {rest : List Request}
    (h : Moment .empty (e.request tree data w r) (request :: rest)) :
    ∃ reply, (Walk.start .empty request.1 request.2).Ends .empty reply :=
  Run.exists_ends fun task s ha ↦ Moment.exists_ends hb (.ask h ha)
termination_by (potential rounds (request :: rest), request.1.size)
decreasing_by
  rcases ha.potential_lt (hb _ (.ask h ha)) with hp | ⟨⟨hc, hr⟩, hp⟩
  · exact Prod.Lex.left _ _ hp
  · -- a call of a function value that uses up nothing is smaller than the one that makes it
    have hsize : task.size < request.1.size := by
      obtain ⟨parent, u⟩ := request
      cases parent with
      | call f args => exact ha.size_lt (h.built (.call f args, u) List.mem_cons_self) hc
      | walk | enter | render | invoke | callback => cases hr
    rcases Nat.lt_or_eq_of_le hp with hp | hp
    · exact Prod.Lex.left _ _ hp
    · rw [hp]
      exact Prod.Lex.right _ hsize

/-- How deep the tasks of a render nest, by the depth of template calls, the sizes of the
templates and the number of times that a body may be run within itself. -/
def Executor.maxNesting (e : Executor) (tree : Tree) (rounds : Nat) : Nat :=
  e.set.cost rounds * (e.options.depthLimit - e.depth) + costOf rounds tree.root

end

/-! ### A body that runs itself -/

section

private theorem Walk.values_cons {m : Walk Value} {rest : List (Walk Value)} {s u t : State}
    {v : Value} {vs : List Value} (hm : m s = .done (.ok v, u))
    (hr : values rest u = .done (.ok vs, t)) :
    values (m :: rest) s = .done (.ok (v :: vs), t) := by
  rw [values, bind_run, hm]
  show (values rest >>= _) u = _
  rw [bind_run, hr]
  rfl

/-- The arguments of the function that runs the body whose handle is kept, once for each item of
the data. -/
def againArguments : List Operand :=
  [.dot, .pipe (.ofForms [[.identifier "get", .text "h"]]), .variable "$" []].map (.mk ⟨0, 0⟩)

/-- A body that runs the body whose handle is kept. -/
def againBody : List Node :=
  [.action ⟨0, 0⟩ (.mk ⟨0, 0⟩ []
    [.mk ⟨0, 0⟩ (.mk ⟨0, 0⟩ (.identifier "range_callback") :: againArguments)] false)]

/-- A template with a callback that keeps its handle and one, with the same handle, whose body runs
the body of that handle. -/
def againTree : Tree :=
  .ofNodes "t" [.callback [[.text "h"], [.identifier "set"]] [],
    .callback [[.identifier "range_callback", .variable "$" []]] againBody]

/-- A list of a single item. -/
def againData : Value := .list [.nil] (some 0)

/-- The executor of the template whose body runs itself. -/
def againExecutor : Executor := .root (.empty "t") ⟨"t", some againTree, .empty⟩ 0

/-- The resources of the render of that template, at its start. -/
def againResources : Resources := (Resources.initial .nil).newStore.2

/-- The request of the render of that template. -/
def againRequest : Request :=
  againExecutor.request againTree againData .unlimited againResources

/-- The render of that template when the handle is kept. -/
def againKept (place : Option (Span × Subject)) (n : Nat) : State :=
  { State.initial againExecutor againData .unlimited
      ⟨#[], #[⟨[(.text "h", .block 0)]⟩], n, .nil⟩ with place := place }

/-- The render of that template while the body runs. -/
def againState (calls args count : Value) (place : Option (Span × Subject)) (n : Nat) : State :=
  { againKept place n with
    vars := [("$", againData), ("$0", calls), ("$@", args), ("$!", count)]
    blocks := [⟨againBody, 1, 0⟩] }

variable (calls args count dot : Value) (place : Option (Span × Subject)) (n : Nat)

private theorem again_kept : ∃ call dot place n,
    Moment .empty againRequest
      [(.callback call againBody dot, againKept place n), againRequest] ∧
    call = .mk ⟨0, 0⟩ [.mk ⟨0, 0⟩ (.identifier "range_callback"), .mk ⟨0, 0⟩ (.variable "$" [])] :=
  ⟨_, _, _, _, .ask .start (.after rfl (.value rfl) (.first rfl)), rfl⟩

private theorem again_first : ∃ d more calls args count place' n',
    (Walk.start .empty
      (.callback (.mk ⟨0, 0⟩ [.mk ⟨0, 0⟩ (.identifier "range_callback"),
        .mk ⟨0, 0⟩ (.variable "$" [])]) againBody dot) (againKept place n)).Asks .empty
      (.invoke 0 d more) (againState calls args count place' n') :=
  ⟨_, _, _, _, _, _, _, .first rfl⟩

/-- An invocation of the handle runs the body. -/
private theorem again_invoked (more : List Value) : ∃ args' count' n',
    (Walk.start .empty (.invoke 0 dot more) (againState calls args count place n)).Asks .empty
      (.walk againBody dot) (againState calls args' count' place n') :=
  ⟨_, _, _, .first rfl⟩

private theorem again_values : ∃ place' n',
    Walk.values (Operand.arguments .empty dot againArguments)
        (againState calls args count place n) =
      .done (.ok [dot, .block 0, againData], againState calls args count place' n') :=
  ⟨_, _, Walk.values_cons (u := againState calls args count _ _) rfl
    (Walk.values_cons (u := againState calls args count _ _) rfl
      (Walk.values_cons (u := againState calls args count _ _) rfl rfl))⟩

private theorem again_called : ∃ d more place' n',
    (Walk.callFunction .empty (.ofBuiltin .rangeCallback) "range_callback"
      [dot, .block 0, againData] (againState calls args count place n)).Asks .empty
      (.invoke 0 d more) (againState calls args count place' n') :=
  ⟨_, _, _, _, .first rfl⟩

/-- The body invokes the handle. -/
private theorem again_walked : ∃ d more place' n',
    (Walk.start .empty (.walk againBody dot) (againState calls args count place n)).Asks .empty
      (.invoke 0 d more) (againState calls args count place' n') := by
  have hcall (place : Option (Span × Subject)) : ∃ d more place' n',
      (Walk.callNamed .empty "range_callback" (Operand.arguments .empty dot againArguments)
        .invalid (againState calls args count place n)).Asks .empty
        (.invoke 0 d more) (againState calls args count place' n') := by
    obtain ⟨p₁, n₁, hv⟩ := again_values calls args count dot place n
    obtain ⟨d, more, p₂, n₂, hc⟩ := again_called calls args count dot p₁ n₁
    refine ⟨d, more, p₂, n₂, ?_⟩
    apply Walk.asks_bind_done (v := againState calls args count place n)
      (a := some (.direct (.ofBuiltin .rangeCallback))) rfl
    apply Walk.asks_bind_done (a := Function.ofBuiltin .rangeCallback) rfl
    exact Walk.asks_bind_done (a := ()) rfl (Walk.asks_bind_done hv hc)
  obtain ⟨d, more, p, m, hc⟩ := hcall _
  refine ⟨d, more, p, m, ?_⟩
  -- the call is what the pipeline of the action of the body begins with
  refine Walk.asks_bind (Walk.asks_bind_done (a := ()) rfl ?_)
  refine Walk.asks_bind (Run.Asks.bind (Walk.asks_bind ?_))
  refine Walk.asks_bind_done (a := ()) rfl (Walk.asks_bind (Walk.asks_bind ?_))
  exact Walk.asks_bind_done (a := ()) rfl hc

/-- The body runs within itself to any depth. -/
private theorem again_deep (depth : Nat) : ∃ dot calls args count place n stack,
    Moment .empty againRequest
        ((.walk againBody dot, againState calls args count place n) :: stack) ∧
      depth ≤ stack.length := by
  induction depth with
  | zero =>
    obtain ⟨call, dot, place, n, hm, rfl⟩ := again_kept
    obtain ⟨d, more, calls, args, count, place, n, hi⟩ := again_first dot place n
    obtain ⟨args', count', n, hw⟩ := again_invoked calls args count d place n more
    exact ⟨_, _, _, _, _, _, _, .ask (.ask hm hi) hw, Nat.zero_le _⟩
  | succ depth ih =>
    obtain ⟨dot, calls, args, count, place, n, stack, hm, hl⟩ := ih
    obtain ⟨d, more, place, n, hi⟩ := again_walked calls args count dot place n
    obtain ⟨args', count', n, hw⟩ := again_invoked calls args count d place n more
    exact ⟨_, _, _, _, _, _, _, .ask (.ask hm hi) hw,
      Nat.succ_le_succ (Nat.le_trans hl (Nat.le_succ _))⟩

/-- A render with built-in functions alone, and a list for its data, that never returns. -/
theorem not_returns_again :
    ¬ ∃ budget,
      (againExecutor.render .empty budget againData .unlimited againResources).isSome := by
  rw [Executor.exists_render_iff rfl rfl]
  rintro ⟨reply, h⟩
  obtain ⟨bound, hb⟩ := againRequest.exists_length_le h
  obtain ⟨dot, calls, args, count, place, n, stack, hm, hl⟩ := again_deep bound
  have hlength := hb _ hm
  rw [List.length_cons] at hlength
  omega

end

section

variable {e : Executor} {tree : Tree} {data : Value} {w : Writer} {r : Resources}

/-- A render without functions of a host returns exactly if there is a bound on how often the body
of a callback is run within itself. Any such bound bounds how deep its tasks nest. Where no
template has a callback, that is at most once, so the render returns. -/
theorem render_returns_iff (he : e.raw = none) (ht : e.template.tree = some tree) :
    ((∃ budget, (e.render .empty budget data w r).isSome) ↔
      ∃ rounds, (e.request tree data w r).Bounded .empty rounds) ∧
    (∀ rounds, (e.request tree data w r).Bounded .empty rounds →
      ∀ stack, Moment .empty (e.request tree data w r) stack →
        nesting stack ≤ e.maxNesting tree rounds) ∧
    (e.set.CallbackFree → allCallbackFree tree.root →
      (∃ budget, (e.render .empty budget data w r).isSome) ∧
        ∀ stack, Moment .empty (e.request tree data w r) stack →
          nesting stack ≤ e.maxNesting tree 1) := by
  have returns {rounds : Nat} (hb : (e.request tree data w r).Bounded .empty rounds) :
      ∃ budget, (e.render .empty budget data w r).isSome :=
    (Executor.exists_render_iff he ht).mpr (Moment.exists_ends hb .start)
  have nests {rounds : Nat} (hb : (e.request tree data w r).Bounded .empty rounds)
      (stack : List Request) (hs : Moment .empty (e.request tree data w r) stack) :
      nesting stack ≤ e.maxNesting tree rounds :=
    hs.nesting_le hb rfl
  refine ⟨⟨?_, ?_⟩, fun _ hb ↦ nests hb, ?_⟩
  · intro h
    obtain ⟨_, h⟩ := (Executor.exists_render_iff he ht).mp h
    exact Request.exists_bounded _ h
  · rintro ⟨_, hb⟩
    exact returns hb
  · intro hset htree
    have hb : (e.request tree data w r).Bounded .empty 1 :=
      Request.bounded_of_callbackFree (Executor.callbackFree_request hset htree)
    exact ⟨returns hb, nests hb⟩

end

/-- A template with a callback that runs its body once for each item of the data. -/
def onceTree : Tree :=
  .ofNodes "t" [.callback [[.identifier "range_callback", .variable "$" []]] [.text ⟨0, 0⟩ "x"]]

/-- The executor of the template that runs its body once for each item. -/
def onceExecutor : Executor := .root (.empty "t") ⟨"t", some onceTree, .empty⟩ 0

/-- The request of the render of that template. -/
def onceRequest : Request := onceExecutor.request onceTree againData .unlimited againResources

/-- A template that calls itself. -/
def selfTree : Tree := .ofNodes "t" [.template ⟨0, 0⟩ "t" none]

/-- The executor of the template that calls itself. -/
def selfExecutor : Executor :=
  .root ((TemplateSet.empty "t").add selfTree).2 ⟨"t", some selfTree, .empty⟩ 0

private theorem self_callbackFree : selfExecutor.set.CallbackFree := by
  intro name t tree hl ht
  have hs : selfExecutor.set.templates = [("t", ⟨"t", some selfTree, .empty⟩)] := rfl
  rw [TemplateSet.lookup, hs] at hl
  have hmem := mem_of_lookup_eq_some hl
  cases List.mem_singleton.mp hmem
  cases ht
  rfl

/-- A render that runs a body, but not within itself, returns, and so does the render of a template
that calls itself. -/
theorem render_returns_iff_once :
    (∃ rounds, onceRequest.Bounded .empty rounds ∧
      ∀ stack, Moment .empty onceRequest stack →
        nesting stack ≤ onceExecutor.maxNesting onceTree rounds) ∧
    ∃ budget, (selfExecutor.render .empty budget .invalid .unlimited againResources).isSome := by
  constructor
  · have h := @render_returns_iff onceExecutor onceTree againData .unlimited againResources rfl rfl
    obtain ⟨rounds, hb⟩ := h.1.mp ⟨20, by decide +kernel⟩
    exact ⟨rounds, hb, h.2.1 rounds hb⟩
  · have h := @render_returns_iff selfExecutor selfTree .invalid .unlimited againResources rfl rfl
    exact (h.2.2 self_callbackFree rfl).1

end TextTemplate
