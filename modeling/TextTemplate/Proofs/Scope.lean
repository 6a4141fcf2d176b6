import TextTemplate.Proofs.Callback

/-!
# The scope of callback bodies

The body of a callback runs among the variables that are current when it is invoked. Those are the
variables of the callback's node, and of the block, as long as no other template has been entered;
in a template that was called meanwhile they are that template's own, which the invocation then
overwrites in part, if there are enough of them.
-/

set_option autoImplicit false

namespace TextTemplate

variable {host : Host} {e : Executor} {tree : Tree} {data : Value} {w : Writer} {r : Resources}
  {c : Callback} {i : Invocation} {stack above : List Request}

/-! ### Frames of variables -/

/-- The open tasks down to the one that began the current frame of variables: the nodes of a called
template, or a render. -/
def frame : List Request → List Request
  | [] => []
  | request :: rest =>
    if request.1.isRender || request.1.isEnter then request :: rest else frame rest

private theorem length_frame_le (stack : List Request) : (frame stack).length ≤ stack.length := by
  induction stack with
  | nil => exact Nat.le_refl _
  | cons request rest ih =>
    rw [frame]
    split
    · exact Nat.le_refl _
    · exact Nat.le_succ_of_le ih

/-- The frame is still the same if and only if no other template has been entered. -/
theorem frame_append_iff (h : ∀ request ∈ above, request.1.isRender = false) :
    frame (above ++ stack) = frame stack ↔ ∀ request ∈ above, request.1.isEnter = false := by
  induction above with
  | nil => simp
  | cons request above ih =>
    rw [List.forall_mem_cons] at h
    rw [List.forall_mem_cons, List.cons_append, frame, h.1, Bool.false_or]
    cases he : request.1.isEnter with
    | false => simpa using ih h.2
    | true =>
      have hl := length_frame_le stack
      refine iff_of_false (fun hf ↦ ?_) (by simp)
      have := congrArg List.length hf
      simp only [if_true, List.length_cons, List.length_append] at this
      omega

private theorem names_opened (request : Request) : request.2.vars.names <+:
    request.opened.vars.names := by
  obtain ⟨task, s⟩ := request
  cases task with
  | callback call body dot => simp [Request.opened, Walk.openBlock]
  | _ => exact List.prefix_rfl

/-- In the frame of a callback the variables are those of its node, those of its block, and maybe
more. -/
theorem Moment.keeps_names {request : Request}
    (h : Moment host (e.request tree data w r) (request :: above ++ c.moment))
    (hn : ∀ q ∈ request :: above, q.1.isRender = false ∧ q.1.isEnter = false) :
    (c.state.vars ++ Walk.blockVariables).names <+: request.2.vars.names := by
  induction above generalizing request with
  | nil =>
    have hq := hn request List.mem_cons_self
    exact h.asked.within.vars hq.1 hq.2
  | cons parent above ih =>
    have hq := hn request List.mem_cons_self
    have hp := ih h.outer fun q hq ↦ hn q (List.mem_cons_of_mem _ hq)
    exact (hp.trans (names_opened parent)).trans (h.asked.within.vars hq.1 hq.2)

/-! ### Invocations in and out of scope -/

/-- The variables of a block: how often its body has run, the arguments, and their number. -/
def Invocation.ownVariables (i : Invocation) (calls : Value) : Bindings :=
  [("$0", calls), ("$@", (i.state.resources.hold (.list i.args none)).1),
    ("$!", .ofNat i.args.length)]

/-- What a run of a body makes of the variables with which the body ends: it drops those that are
new and sets the first variable of the block, if anything. -/
theorem Walk.of_runBody_ends {handle : Nat} {b : Block} {dot : Value} {s v : State}
    {o : Outcome Unit} (h : (runBody handle b dot s).Ends host (o, v)) (ho : o.Returned) :
    ∃ x u, (start host (.walk b.body dot) s).Ends host (x, u) ∧
      (v.vars = u.vars.take s.vars.length ∨
        ∃ calls, v.vars = Bindings.setAt (u.vars.take s.vars.length) b.base calls) := by
  rw [runBody, read_bind] at h
  obtain ⟨e, rfl, hw⟩ | ⟨_, _, hw, hcount⟩ := of_bind_ends h ho
  · obtain ⟨u, hu, rfl⟩ := of_after_ends hw trivial
    obtain ⟨x, hx⟩ := of_perform_ends hu
    exact ⟨x, u, hx, .inl rfl⟩
  · obtain ⟨u, hu, rfl⟩ := of_after_ends hw trivial
    obtain ⟨x, hx⟩ := of_perform_ends hu
    refine ⟨x, u, hx, ?_⟩
    obtain ⟨e, rfl, hset⟩ | ⟨_, _, hset, hvar⟩ := of_bind_ends hcount ho
    · cases of_changeAt_ends hset trivial
      exact .inl rfl
    · cases of_changeAt_ends hset trivial
      cases of_changeAt_ends hvar ho
      exact .inr ⟨_, rfl⟩

/-- An invocation runs the body of a callback in the scope of its node: in the frame of that node,
with the variables of the node, which it leaves as they are, and those of the block, and no more.
When the body has ended it writes no variable but the first one of the block. -/
structure InScope (host : Host) (c : Callback) (i : Invocation) : Prop where
  sameFrame : frame i.moment = frame c.moment
  names : Bindings.names (i.state.vars.take c.state.vars.length) = c.state.vars.names
  begins : ∃ calls u, (i.run host).Asks host (.walk c.body i.dot) u ∧
    u.vars = i.state.vars.take c.state.vars.length ++ i.ownVariables calls
  ends : ∀ u, (i.run host).Asks host (.walk c.body i.dot) u → ∀ x v,
    (Walk.start host (.walk c.body i.dot) u).Ends host (x, v) → ∀ o v',
      (i.run host).Ends host (o, v') → o.Returned → ∀ place, place ≠ c.state.vars.length →
        v'.vars[place]? = (v.vars.take i.state.vars.length)[place]?

/-- The variables with which an invocation begins the body of a block. -/
def Invocation.begun (i : Invocation) (base : Nat) : Bindings :=
  (i.state.vars.setAt (base + 1) (i.state.resources.hold (.list i.args none)).1).setAt (base + 2)
    (.ofNat i.args.length)

private theorem Bindings.setAt_append (vars more : Bindings) (n : Nat) (v : Value) :
    Bindings.setAt (vars ++ more) (vars.length + n) v = vars ++ more.setAt n v := by
  induction vars with
  | nil => simp
  | cons b rest ih =>
    rw [List.length_cons, Nat.add_right_comm]
    simp only [List.cons_append, setAt, List.modify_succ_cons]
    exact congrArg (b :: ·) ih

/-- Variables with the names of those of a node and those of a block are the ones and the others. -/
theorem Bindings.exists_own {vars u : Bindings}
    (h : (vars ++ Walk.blockVariables).names = u.names) :
    ∃ x y z, u = u.take vars.length ++ [("$0", x), ("$@", y), ("$!", z)] := by
  have hdrop : names (u.drop vars.length) = ["$0", "$@", "$!"] := by
    have h := congrArg (List.drop vars.length) h.symm
    rw [names, List.map_drop]
    simpa [names, Walk.blockVariables] using h
  have hu := (List.take_append_drop vars.length u).symm
  generalize u.drop vars.length = own at hdrop hu
  rw [names, List.map_eq_cons_iff] at hdrop
  obtain ⟨⟨_, x⟩, own, rfl, rfl, hown⟩ := hdrop
  rw [List.map_eq_cons_iff] at hown
  obtain ⟨⟨_, y⟩, own, rfl, rfl, hown⟩ := hown
  rw [List.map_eq_cons_iff] at hown
  obtain ⟨⟨_, z⟩, own, rfl, rfl, hown⟩ := hown
  rw [List.map_eq_nil_iff] at hown
  exact ⟨x, y, z, hown ▸ hu⟩

/-- An invocation with no more variables than those of the node and the block begins with them. -/
theorem Invocation.begun_eq {vars : Bindings}
    (h : (vars ++ Walk.blockVariables).names = i.state.vars.names) :
    ∃ calls, i.begun vars.length = i.state.vars.take vars.length ++ i.ownVariables calls := by
  obtain ⟨x, y, z, hu⟩ := Bindings.exists_own h
  have htake : vars.length = (i.state.vars.take vars.length).length := by
    have hl := congrArg List.length h
    rw [Bindings.length_names, Bindings.length_names, List.length_append] at hl
    rw [List.length_take]
    omega
  refine ⟨x, ?_⟩
  rw [begun]
  generalize i.state.vars.take vars.length = front at hu htake ⊢
  rw [hu, htake, Bindings.setAt_append, Bindings.setAt_append]
  rfl

private theorem Invocation.of_run_ends {b : Block} {o : Outcome Value} {v : State}
    (hb : i.block? = some b) (h : (i.run host).Ends host (o, v)) (ho : o.Returned) :
    ∃ o' : Outcome Unit, o'.Returned ∧
      (Walk.runBody i.handle b i.dot (i.state.withArguments b i.args)).Ends host (o', v) := by
  rw [run, Walk.start] at h
  obtain ⟨e, rfl, hw⟩ | ⟨_, _, hw, hd⟩ := Walk.of_bind_ends h ho
  · exact ⟨.error e, trivial, Walk.invokeBlock_some i.args hb ▸ hw⟩
  · cases hd
    exact ⟨.ok (), trivial, Walk.invokeBlock_some i.args hb ▸ hw⟩

/-- When the body has ended, an invocation writes the first variable of the block, if anything. -/
theorem Invocation.getElem?_of_ends {b : Block} {o : Outcome Value} {v : State}
    {x : Outcome Value × State} {place : Nat} (hb : i.block? = some b)
    (hx : (Walk.start host (.walk b.body i.dot) (i.state.withArguments b i.args)).Ends host x)
    (h : (i.run host).Ends host (o, v)) (ho : o.Returned) (hp : place ≠ b.base) :
    v.vars[place]? = (x.2.vars.take i.state.vars.length)[place]? := by
  obtain ⟨o', ho', hrun⟩ := of_run_ends hb h ho
  obtain ⟨x', u, hu, hvars⟩ := Walk.of_runBody_ends hrun ho'
  cases hu.unique hx
  have hmark : (i.state.withArguments b i.args).vars.length = i.state.vars.length := by
    simp [State.withArguments]
  rw [hmark] at hvars
  obtain hvars | ⟨calls, hvars⟩ := hvars
  · rw [hvars]
  · rw [hvars, Bindings.setAt, List.getElem?_modify_ne _ _ (Ne.symm hp)]

section

variable (used : Moment host (e.request tree data w r) i.moment) (hc : c.IsOpen i.below)

include used hc

/-- In the frame of an open callback, an invocation finds its variables and those of its block. -/
theorem Invocation.keeps_names (hf : frame i.moment = frame c.moment) :
    (c.state.vars ++ Walk.blockVariables).names <+: i.state.vars.names := by
  obtain ⟨above, ha, hr⟩ := hc
  have hm : i.moment = (.invoke i.handle i.dot i.args, i.state) :: above ++ c.moment := by
    rw [moment, ha, List.cons_append]
  have hr' : ∀ q ∈ (Task.invoke i.handle i.dot i.args, i.state) :: above, q.1.isRender = false :=
    List.forall_mem_cons.mpr ⟨rfl, hr⟩
  rw [hm, frame_append_iff hr'] at hf
  rw [hm] at used
  exact used.keeps_names fun q hq ↦ ⟨hr' q hq, hf q hq⟩

private theorem Invocation.length_le (hf : frame i.moment = frame c.moment) :
    c.state.vars.length + 3 ≤ i.state.vars.length := by
  have hl := (keeps_names used hc hf).length_le
  rwa [Bindings.length_names, Bindings.length_names, List.length_append] at hl

private theorem Invocation.names_eq (hf : frame i.moment = frame c.moment)
    (hl : i.state.vars.length = c.state.vars.length + 3) :
    (c.state.vars ++ Walk.blockVariables).names = i.state.vars.names := by
  refine (keeps_names used hc hf).eq_of_length ?_
  rw [Bindings.length_names, Bindings.length_names, List.length_append, hl]
  rfl

end

/-! ### Invocations of open callbacks -/

private theorem InScope.length_eq (hs : InScope host c i)
    (hv : c.state.vars.length + 3 ≤ i.state.vars.length) :
    i.state.vars.length = c.state.vars.length + 3 := by
  obtain ⟨calls, u, ha, hu⟩ := hs.begins
  obtain ⟨_, _, _, rfl⟩ := Invocation.asks_iff.mp ha
  have hl := congrArg List.length hu
  simp only [State.withArguments, Bindings.length_setAt, List.length_append, List.length_take,
    Invocation.ownVariables, List.length_cons, List.length_nil] at hl
  omega

/-- An invocation with no more variables than those of the node and of the block is in scope. -/
theorem InScope.of_block? {b : Block} (hb : i.block? = some b) (hbody : b.body = c.body)
    (hbase : b.base = c.state.vars.length) (hf : frame i.moment = frame c.moment)
    (hn : (c.state.vars ++ Walk.blockVariables).names = i.state.vars.names) :
    InScope host c i where
  sameFrame := hf
  names := by
    rw [Bindings.names_take, ← hn, Bindings.names_append, List.take_left' (Bindings.length_names _)]
  begins := by
    obtain ⟨calls, hcalls⟩ := Invocation.begun_eq hn
    refine ⟨calls, i.state.withArguments b i.args,
      Invocation.asks_iff.mpr ⟨b, hb, by rw [hbody], rfl⟩, ?_⟩
    rw [← hcalls, ← hbase]
    rfl
  ends := by
    intro u ha x v hv o v' hrun ho place hp
    obtain ⟨b', hb', -, rfl⟩ := Invocation.asks_iff.mp ha
    cases hb.symm.trans hb'
    rw [← hbody] at hv
    exact Invocation.getElem?_of_ends hb hv hrun ho (hbase ▸ hp)

/-! ### An invocation from a called template -/

/-- The declaration of a variable with a text. -/
def Node.declare (name text : String) : Node :=
  .action ⟨0, 0⟩ (.mk ⟨0, 0⟩ [⟨⟨0, 0⟩, name, .declare, false⟩]
    [.mk ⟨0, 0⟩ [.mk ⟨0, 0⟩ (.text text)]] false)

/-- A host whose functions run the outermost block. -/
def outermostHost : Host where
  plain _ _ _ := .fail .needsRender
  stateful _ _ _ := .runBlock 0 .nil [] false (.orFail fun _ ↦ .done .nothing)
  build _ _ := .fail .needsRender

/-- A template with three variables that runs the outermost block. -/
def calledTree : Tree :=
  .ofNodes "u" [.declare "$p" "p", .declare "$q" "q", .declare "$r" "r",
    .action ⟨0, 0⟩ (.ofForms [[.identifier "outermost"]])]

/-- A template with a callback whose body calls the template with three variables. -/
def callingTree : Tree :=
  .ofNodes "t" [.callback [[.identifier "outermost"]] [.template ⟨0, 0⟩ "u" none]]

/-- The request of the render of the template whose callback calls another template. -/
def callingRequest : Request :=
  let set := ((TemplateSet.empty "t").add calledTree).2
  let function : Function := .mk ⟨.atLeast 0, .nothing⟩ true (.host 0) [] none none
  let executor := (Executor.root set ⟨"t", some callingTree, .empty⟩ 0).withScope
    ⟨[[("outermost", .direct function)]]⟩ 0
  executor.request callingTree .invalid .unlimited (.initial .nil)

private theorem calling_invoked : ∃ call body dot u d args s,
    Moment outermostHost callingRequest
      [(.invoke 0 d args, s), (.callback call body dot, u), callingRequest] ∧
    u.blocks = [] ∧ s.vars.length = u.vars.length + 3 :=
  ⟨_, _, _, _, _, _, _, .ask (.ask .start (.first rfl)) (.first rfl), rfl, rfl⟩

private theorem calling_used : ∃ call body dot u d d₁ args₁ s₁ s₂ s₃ args s v,
    Moment outermostHost callingRequest
      [(.invoke 0 d args, s), (.enter calledTree.root d₁, s₃), (.walk body d₁, s₂),
        (.invoke 0 d₁ args₁, s₁), (.callback call body dot, u), callingRequest] ∧
    (Walk.start outermostHost (.invoke 0 d args) s).Asks outermostHost (.walk body d) v ∧
    u.blocks = [] ∧ s.lookup "$r" = some (.text "r") ∧ v.lookup "$r" = some (.ofNat 0) :=
  ⟨_, _, _, _, _, _, _, _, _, _, _, _, _,
    .ask (.ask (.ask (.ask (.ask .start (.first rfl)) (.first rfl))
      (.first rfl)) (.first rfl)) (.first rfl), .first rfl, rfl, rfl, rfl⟩

/-- An invocation from a called template, whose variables it overwrites. -/
theorem not_inScope_calling : ∃ (c : Callback) (i : Invocation),
    Moment outermostHost callingRequest i.moment ∧ c.IsOpen i.below ∧ c.handle = i.handle ∧
      i.state.lookup "$r" = some (.text "r") ∧
      (∃ v, (i.run outermostHost).Asks outermostHost (.walk c.body i.dot) v ∧
        v.lookup "$r" = some (.ofNat 0)) ∧
      ¬ InScope outermostHost c i := by
  obtain ⟨call, body, dot, u, d, d₁, args₁, s₁, s₂, s₃, args, s, v, used, hasks, hu, hs, hv⟩ :=
    calling_used
  let above : List Request :=
    [(.enter calledTree.root d₁, s₃), (.walk body d₁, s₂), (.invoke 0 d₁ args₁, s₁)]
  let c : Callback := ⟨call, body, dot, u, [callingRequest]⟩
  let i : Invocation := ⟨0, d, args, s, above ++ c.moment⟩
  have hopen : c.IsOpen i.below := ⟨above, rfl, by simp [above, Task.isRender]⟩
  have hhandle : c.handle = i.handle := by
    rw [Callback.handle, hu]
    rfl
  refine ⟨c, i, used, hopen, hhandle, hs, ⟨v, hasks, hv⟩, ?_⟩
  intro h
  -- the frame is that of the called template
  have hf := congrArg List.length h.sameFrame
  simp [c, i, above, frame, Invocation.moment, Callback.moment, Task.isRender, Task.isEnter,
    callingRequest, Executor.request] at hf

/-! ### The scope of a body -/

/-- An invocation of an open callback runs its body in the scope of its node exactly if no other
template has been entered, and no other variables have been declared, since. Otherwise the body is
run with the variables that there are, where the invocation overwrites two; it is only refused in
another frame, one that has too few variables. -/
theorem inScope_iff (used : Moment host (e.request tree data w r) i.moment)
    (hc : c.IsOpen i.below) (hn : c.handle = i.handle) :
    (InScope host c i ↔
      frame i.moment = frame c.moment ∧ i.state.vars.length = c.state.vars.length + 3) ∧
    (frame i.moment = frame c.moment → c.state.vars.length + 3 ≤ i.state.vars.length) ∧
    (c.state.vars.length + 3 ≤ i.state.vars.length →
      ∃ u, (i.run host).Asks host (.walk c.body i.dot) u ∧
        u.vars = i.begun c.state.vars.length) ∧
    (i.state.vars.length < c.state.vars.length + 3 →
      i.run host = .done (.error (.new "callback is no longer active"), i.state)) := by
  obtain ⟨b, hf, hb⟩ := Invocation.block?_of_isOpen used hc hn
  have hbase : b.base = c.state.vars.length := congrArg Block.base hf
  have hbody : b.body = c.body := congrArg Block.body hf
  have hlen := Invocation.length_le used hc
  refine ⟨⟨?_, ?_⟩, hlen, ?_, ?_⟩
  · intro hs
    exact ⟨hs.sameFrame, hs.length_eq (hlen hs.sameFrame)⟩
  · rintro ⟨hfr, hl⟩
    have hnames := Invocation.names_eq used hc hfr hl
    rw [if_pos (Nat.le_of_eq hl.symm)] at hb
    exact .of_block? hb hbody hbase hfr hnames
  · intro hv
    rw [if_pos hv] at hb
    refine ⟨i.state.withArguments b i.args, ?_, ?_⟩
    · exact Invocation.asks_iff.mpr ⟨b, hb, by rw [hbody], rfl⟩
    · rw [← hbase]
      rfl
  · intro hv
    apply Invocation.run_none
    rw [hb, if_neg (Nat.not_le.mpr hv)]

/-- The callback's own invocation of its body is in scope. -/
theorem inScope_calling : ∃ (c : Callback) (i : Invocation),
    Moment outermostHost callingRequest i.moment ∧ c.IsOpen i.below ∧ c.handle = i.handle ∧
      InScope outermostHost c i := by
  obtain ⟨call, body, dot, u, d, args, s, used, hu, hl⟩ := calling_invoked
  have hn : Callback.handle ⟨call, body, dot, u, [callingRequest]⟩ = 0 := by
    rw [Callback.handle, hu]
    rfl
  have hc : Callback.IsOpen ⟨call, body, dot, u, [callingRequest]⟩
      [(.callback call body dot, u), callingRequest] := ⟨[], rfl, List.forall_mem_nil _⟩
  refine ⟨_, ⟨0, d, args, s, _⟩, used, hc, hn, ?_⟩
  exact (inScope_iff used hc hn).1.mpr ⟨rfl, hl⟩

end TextTemplate
