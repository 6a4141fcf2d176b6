import TextTemplate.Proofs.Callback

/-!
# The nesting of walks

Every task that is asked for uses up some of a reserve, which the depth that is left for calls of
templates, the sinks of wraps and the active blocks make up. A block adds to the reserve each time
that its body can still be run within itself, so the reserve is finite as long as the number of
such runs is bounded. Calls of function values alone may use up nothing; but what a built-in
function calls is one of its arguments.
-/

set_option autoImplicit false

namespace TextTemplate

variable {host : Host} {rounds : Nat}

/-! ### Costs -/

mutual

/-- What the walk of a node may use up, where the body of a callback is run within itself at most
`rounds` times. -/
def Node.cost (rounds : Nat) : Node → Nat
  | .text .. | .action .. | .template .. => 2
  | .branch _ _ _ body otherwise => 1 + costOf rounds body + costOf? rounds otherwise
  | .list _ nodes => 1 + costOf rounds nodes
  | .wrap _ _ body before after otherwise =>
    1 + costOf rounds body + costOf? rounds before + costOf? rounds after
      + costOf? rounds otherwise
  | .block .arg _ _ body => 1 + costOf rounds body
  | .block .callback _ _ body => 3 + rounds * costOf rounds body
termination_by structural n => n

/-- What the walk of nodes may use up. -/
def costOf (rounds : Nat) : List Node → Nat
  | [] => 1
  | n :: rest => n.cost rounds + costOf rounds rest
termination_by structural ns => ns

/-- What the walk of nodes may use up if there are any. -/
def costOf? (rounds : Nat) : Option (List Node) → Nat
  | none => 0
  | some nodes => costOf rounds nodes
termination_by structural ns => ns

end

/-- Whether a task is the call of a function value. -/
def Task.isCall : Task → Bool
  | .call _ _ => true
  | _ => false

/-- Whether a task is an invocation of a handle. -/
def Task.invokes (handle : Nat) : Task → Bool
  | .invoke n _ _ => n == handle
  | _ => false

/-- What a task may use up. -/
def Request.cost (rounds : Nat) : Request → Nat
  | (.walk nodes _, _) | (.enter nodes _, _) | (.render nodes _, _) => costOf rounds nodes
  | (.call _ _, _) => 2
  | (.invoke handle _ _, s) =>
    1 + ((Stack.get? s.blocks handle).map fun b ↦ costOf rounds b.body).getD 0
  | (.callback _ body _, _) => 3 + rounds * costOf rounds body

/-- How many invocations of a handle are open in the render of the innermost task. -/
def running (handle : Nat) : List Request → Nat
  | [] => 0
  | r :: rest => if r.1.isRender then 0 else (r.1.invokes handle).toNat + running handle rest

/-- What the active blocks reserve for further runs of their bodies. -/
def blocksReserve (rounds : Nat) (stack : List Request) : List Block → Nat
  | [] => 0
  | b :: rest =>
    (rounds - running rest.length stack) * costOf rounds b.body + blocksReserve rounds stack rest

/-- What a sink reserves for the nodes before its content. -/
def Sink.reserve (rounds : Nat) : Sink → Nat
  | .buffer _ => 0
  | .wrap w => costOf? rounds w.before

/-- What the sinks reserve. -/
def sinksReserve (rounds : Nat) : List Sink → Nat
  | [] => 0
  | sink :: rest => sink.reserve rounds + sinksReserve rounds rest

/-- What a template may use up. -/
def Template.cost (rounds : Nat) (t : Template) : Nat := costOf? rounds (t.tree.map Tree.root)

/-- What the templates of a layer may use up, each of them once. -/
def templatesCost (rounds : Nat) : Layer Template → Nat
  | [] => 0
  | entry :: rest => entry.2.cost rounds + templatesCost rounds rest

/-- What a call of any template of a set may use up. -/
def TemplateSet.cost (rounds : Nat) (set : TemplateSet) : Nat := templatesCost rounds set.templates

/-- What is left in a state, among the tasks that are open, for other tasks to use up. -/
def State.reserve (rounds : Nat) (stack : List Request) (s : State) : Nat :=
  s.exec.set.cost rounds * (s.exec.options.depthLimit - s.depth)
    + sinksReserve rounds s.sinks + blocksReserve rounds stack s.blocks

/-- What the innermost task may use up, and what is then left. -/
def potential (rounds : Nat) : List Request → Nat
  | [] => 0
  | r :: rest => r.2.reserve rounds (r :: rest) + r.cost rounds

/-! ### Open invocations -/

section

variable {handle : Nat} {r : Request} {stack : List Request}

private theorem running_cons (hr : r.1.isRender = false) :
    running handle (r :: stack) = (r.1.invokes handle).toNat + running handle stack := by
  rw [running, hr]
  rfl

private theorem running_cons_of_not_invokes (hr : r.1.isRender = false)
    (hi : r.1.invokes handle = false) : running handle (r :: stack) = running handle stack := by
  rw [running_cons hr, hi, Bool.toNat_false, Nat.zero_add]

private theorem running_le_cons (hr : r.1.isRender = false) :
    running handle stack ≤ running handle (r :: stack) :=
  running_cons hr ▸ Nat.le_add_left ..

end

/-! ### Reserves -/

section

variable {stack stack' : List Request} {blocks : List Block}

/-- The more invocations are open, the less is left. -/
theorem blocksReserve_le (h : ∀ n < blocks.length, running n stack ≤ running n stack') :
    blocksReserve rounds stack' blocks ≤ blocksReserve rounds stack blocks := by
  induction blocks with
  | nil => exact Nat.le_refl _
  | cons b rest ih =>
    have hrest := ih fun n hn ↦ h n (Nat.lt_succ_of_lt hn)
    have hsub : rounds - running rest.length stack' ≤ rounds - running rest.length stack :=
      Nat.sub_le_sub_left (h rest.length (Nat.lt_succ_self _)) _
    have hb := Nat.mul_le_mul_right (costOf rounds b.body) hsub
    rw [blocksReserve, blocksReserve]
    omega

private theorem blocksReserve_congr (h : ∀ n < blocks.length, running n stack = running n stack') :
    blocksReserve rounds stack blocks = blocksReserve rounds stack' blocks := by
  apply Nat.le_antisymm
  · apply blocksReserve_le
    intro n hn
    exact Nat.le_of_eq (h n hn).symm
  · apply blocksReserve_le
    intro n hn
    exact Nat.le_of_eq (h n hn)

private theorem blocksReserve_fresh (blocks : List Block) :
    blocksReserve rounds stack (blocks.map Block.fresh) = blocksReserve rounds stack blocks := by
  induction blocks with
  | nil => rfl
  | cons b rest ih =>
    rw [List.map_cons, blocksReserve, blocksReserve, ih, List.length_map]
    rfl

/-- An invocation pays for the body that it runs out of what its block reserves. -/
theorem blocksReserve_invoke {n : Nat} {dot : Value} {args : List Value} {u : State} {b : Block}
    (hr : running n ((.invoke n dot args, u) :: stack) ≤ rounds)
    (hb : Stack.get? blocks n = some b) :
    blocksReserve rounds ((.invoke n dot args, u) :: stack) blocks + costOf rounds b.body ≤
      blocksReserve rounds stack blocks := by
  have hself : running n ((.invoke n dot args, u) :: stack) = 1 + running n stack := by
    rw [running_cons rfl, Task.invokes, beq_self_eq_true]
    rfl
  have hother {m : Nat} (h : n ≠ m) :
      running m ((.invoke n dot args, u) :: stack) = running m stack :=
    running_cons_of_not_invokes rfl (beq_false_of_ne h)
  induction blocks with
  | nil => cases hb
  | cons a rest ih =>
    rw [blocksReserve, blocksReserve]
    rcases Stack.of_get?_cons hb with ⟨rfl, rfl⟩ | ⟨hn, hb⟩
    · have hrest : blocksReserve rounds ((.invoke rest.length dot args, u) :: stack) rest =
          blocksReserve rounds stack rest :=
        blocksReserve_congr fun m hm ↦ hother (Nat.ne_of_gt hm)
      have hsub : rounds - running rest.length stack =
          rounds - (1 + running rest.length stack) + 1 := by
        omega
      rw [hrest, hself, hsub, Nat.add_mul, Nat.one_mul]
      omega
    · have hrest := ih hb
      rw [hother (Nat.ne_of_lt hn)]
      omega

/-- What sinks have collected does not matter for what they reserve. -/
theorem sinksReserve_fresh (sinks : List Sink) :
    sinksReserve rounds (sinks.map Sink.fresh) = sinksReserve rounds sinks := by
  induction sinks with
  | nil => rfl
  | cons sink rest ih =>
    rw [List.map_cons, sinksReserve, sinksReserve, ih]
    cases sink <;> rfl

/-- The sinks below one reserve less than all of them, by what that one does. -/
theorem sinksReserve_oldest (rounds : Nat) {sinks : List Sink} {n : Nat} {sink : Sink}
    (h : Stack.get? sinks n = some sink) :
    sinksReserve rounds (Stack.oldest sinks n) + sink.reserve rounds ≤
      sinksReserve rounds sinks := by
  induction sinks with
  | nil => cases h
  | cons a rest ih =>
    rw [sinksReserve]
    rcases Stack.of_get?_cons h with ⟨rfl, rfl⟩ | ⟨hn, h⟩
    · have hrest : Stack.oldest (a :: rest) rest.length = rest := by
        rw [Stack.oldest_cons _ (Nat.le_refl _), Stack.oldest_of_length_le (Nat.le_refl _)]
      exact Nat.le_of_eq (by rw [hrest, Nat.add_comm])
    · have hrest := ih h
      rw [Stack.oldest_cons a (Nat.le_of_lt hn)]
      omega

/-- Steps that keep a level keep what is left. -/
theorem Level.reserve {s u : State} (h : Level host s u) :
    u.reserve rounds stack = s.reserve rounds stack := by
  rw [State.reserve, State.reserve, h.exec, h.depth, ← blocksReserve_fresh u.blocks, h.blocks,
    blocksReserve_fresh, ← sinksReserve_fresh u.sinks, h.sinks, sinksReserve_fresh]

end

/-! ### What is asked for -/

section

variable {calls : Value → List Value → Prop} {stack : List Request} {s u : State} {task : Task}

/-- What a template of a layer may use up is part of what the layer may. -/
theorem cost_le_templatesCost (rounds : Nat) {layer : Layer Template} {entry : String × Template}
    (h : entry ∈ layer) : entry.2.cost rounds ≤ templatesCost rounds layer := by
  induction h with
  | head rest => exact Nat.le_add_right ..
  | tail other _ ih => exact Nat.le_trans ih (Nat.le_add_left ..)

/-- A template that may be called is in the set, and the calls that are open are not too deep. -/
theorem State.of_callee {name : String} {template : Template}
    (hc : s.callee name = .ok template) :
    s.exec.set.lookup name = some template ∧ s.depth < s.exec.options.depthLimit := by
  rw [callee] at hc
  split at hc
  · cases hc
  · next t hl =>
    split at hc
    · cases hc
    · next hd =>
      cases hc
      exact ⟨hl, Nat.lt_of_not_le hd⟩

/-- What a template that may be called may use up is kept back for each level of depth that is
left. -/
theorem State.callee_cost (rounds : Nat) {name : String} {template : Template} {tree : Tree}
    (hc : s.callee name = .ok template) (ht : template.tree = some tree) :
    s.exec.set.cost rounds * (s.exec.options.depthLimit - (s.depth + 1))
        + costOf rounds tree.root ≤
      s.exec.set.cost rounds * (s.exec.options.depthLimit - s.depth) := by
  obtain ⟨hl, hd⟩ := of_callee hc
  have hcost : costOf rounds tree.root ≤ s.exec.set.cost rounds := by
    have := cost_le_templatesCost rounds (mem_of_lookup_eq_some hl)
    rwa [Template.cost, ht] at this
  have hlevel : s.exec.options.depthLimit - s.depth =
      s.exec.options.depthLimit - (s.depth + 1) + 1 := by
    omega
  rw [hlevel, Nat.mul_add, Nat.mul_one]
  omega

private theorem State.reserve_pushSink (sink : Sink) :
    (s.pushSink sink).reserve rounds stack = s.reserve rounds stack + sink.reserve rounds := by
  simp only [reserve, pushSink, sinksReserve]
  omega

/-- The nodes before the content of a wrap are paid for by its sink. -/
theorem State.reserve_truncateSinks (rounds : Nat) (stack : List Request) {n : Nat}
    {w : WrapSink} {nodes : List Node} (hw : Stack.get? s.sinks n = some (.wrap w))
    (hb : w.before = some nodes) :
    (s.truncateSinks n).reserve rounds stack + costOf rounds nodes ≤ s.reserve rounds stack := by
  have h := sinksReserve_oldest rounds hw
  rw [Sink.reserve, hb, costOf?] at h
  simp only [reserve, truncateSinks]
  omega

/-- The block that a callback opens reserves what the callback may use up. -/
theorem State.reserve_openBlock (rounds : Nat) (stack : List Request) (s : State)
    (body : List Node) :
    (Walk.openBlock body s).reserve rounds stack ≤
      s.reserve rounds stack + rounds * costOf rounds body := by
  have h := Nat.mul_le_mul_right (costOf rounds body)
    (Nat.sub_le rounds (running s.blocks.length stack))
  simp only [reserve, Walk.openBlock, blocksReserve]
  omega

private theorem State.reserve_cons (hr : task.isRender = false) (hi : ∀ n, task.invokes n = false) :
    s.reserve rounds ((task, u) :: stack) = s.reserve rounds stack := by
  have h : blocksReserve rounds ((task, u) :: stack) s.blocks =
      blocksReserve rounds stack s.blocks :=
    blocksReserve_congr fun n _ ↦ running_cons_of_not_invokes hr (hi n)
  rw [reserve, reserve, h]

/-- An invocation is paid for by the block that it finds. -/
theorem State.potential_invoke {n : Nat} {dot : Value} {args : List Value}
    (hr : running n ((.invoke n dot args, u) :: stack) ≤ rounds) :
    potential rounds ((.invoke n dot args, u) :: stack) ≤ u.reserve rounds stack + 1 := by
  rw [potential, Request.cost, reserve, reserve]
  cases hb : Stack.get? u.blocks n with
  | none =>
    have h : blocksReserve rounds ((.invoke n dot args, u) :: stack) u.blocks ≤
        blocksReserve rounds stack u.blocks :=
      blocksReserve_le fun _ _ ↦ running_le_cons rfl
    simp only [Option.map_none, Option.getD_none]
    omega
  | some b =>
    have h := blocksReserve_invoke hr hb
    simp only [Option.map_some, Option.getD_some]
    omega

private theorem Walk.reserve_nestedState (template : Template) (data : Value) :
    (Walk.nestedState s template data).reserve rounds stack =
      s.exec.set.cost rounds * (s.exec.options.depthLimit - (s.depth + 1)) := by
  simp only [nestedState]
  split
  · rfl
  · rfl

/-- What evaluation asks for uses up less than two, unless it is the call of a function value. -/
theorem State.Requests.potential_le (h : s.Requests host calls task u)
    (hr : ∀ n, running n ((task, u) :: stack) ≤ rounds) :
    potential rounds ((task, u) :: stack) ≤
      s.reserve rounds stack + if task.isCall then 2 else 1 := by
  cases h with
  | call _ hu =>
    rw [potential, reserve_cons rfl fun _ ↦ rfl, hu.reserve]
    exact Nat.le_refl _
  | invoke hu =>
    rw [← hu.reserve]
    exact potential_invoke (hr _)
  | capture hu =>
    have h := potential_invoke (hr _)
    rw [hu.reserve, reserve_pushSink] at h
    exact h
  | before hw hb hu =>
    have h := reserve_truncateSinks rounds stack hw hb
    rw [potential, reserve_cons rfl fun _ ↦ rfl, hu.reserve, Request.cost]
    omega
  | render hc ht hu =>
    have h := callee_cost rounds hc ht
    rw [potential, Walk.reserve_nestedState, hu.exec, hu.depth, Request.cost, reserve]
    omega

private theorem one_le_costOf (rounds : Nat) (nodes : List Node) : 1 ≤ costOf rounds nodes := by
  induction nodes with
  | nil => exact Nat.le_refl _
  | cons n rest ih =>
    rw [costOf]
    omega

private theorem Node.two_le_cost (rounds : Nat) (n : Node) : 2 ≤ n.cost rounds := by
  cases n with
  | text | action | template => exact Nat.le_refl _
  | branch kind span pipe body otherwise =>
    have := one_le_costOf rounds body
    rw [cost]
    omega
  | list span nodes =>
    have := one_le_costOf rounds nodes
    rw [cost]
    omega
  | wrap span pipe body before after otherwise =>
    have := one_le_costOf rounds body
    rw [cost]
    omega
  | block kind span pipe body =>
    have := one_le_costOf rounds body
    cases kind with
    | arg =>
      rw [cost]
      omega
    | callback =>
      rw [cost]
      omega

/-- The walk of nodes may use up more than the walk of each of them. -/
theorem Node.cost_lt {n : Node} {nodes : List Node} (h : n ∈ nodes) :
    n.cost rounds < costOf rounds nodes := by
  induction nodes with
  | nil => cases h
  | cons m rest ih =>
    rw [costOf]
    cases h with
    | head =>
      have := one_le_costOf rounds rest
      omega
    | tail _ h =>
      have := ih h
      omega

private theorem costOf_toList (rounds : Nat) {body : List Node} {o : Option (List Node)}
    (h : body ∈ o.toList) : costOf rounds body ≤ costOf? rounds o := by
  cases o with
  | none => cases h
  | some nodes =>
    cases List.mem_singleton.mp h
    exact Nat.le_refl _

private theorem Node.costOf_parts (rounds : Nat) {n : Node} {body : List Node}
    (h : body ∈ n.parts) : costOf rounds body ≤ n.cost rounds := by
  cases n with
  | text | action | template => cases h
  | block kind span pipe body => cases kind <;> cases h
  | list span nodes =>
    cases List.mem_singleton.mp h
    rw [cost]
    omega
  | branch kind span pipe body otherwise =>
    rw [cost]
    cases h with
    | head => omega
    | tail _ h =>
      have := costOf_toList rounds h
      omega
  | wrap span pipe body before after otherwise =>
    rw [cost]
    rcases List.mem_append.mp h with h | h
    · have := costOf_toList rounds h
      omega
    · have := costOf_toList rounds h
      omega

/-- What a node asks for uses up no more than the node may. -/
theorem Node.Requests.potential_le {n : Node} (h : n.Requests host s task u)
    (hr : ∀ n, running n ((task, u) :: stack) ≤ rounds) :
    potential rounds ((task, u) :: stack) ≤ s.reserve rounds stack + n.cost rounds := by
  cases h with
  | eval h =>
    have h := h.potential_le hr
    have := n.two_le_cost rounds
    split at h <;> omega
  | part hb hu =>
    have := Node.costOf_parts rounds hb
    rw [potential, State.reserve_cons rfl fun _ ↦ rfl, hu.reserve, Request.cost]
    omega
  | content hu =>
    rw [potential, State.reserve_cons rfl fun _ ↦ rfl, hu.reserve, State.reserve_pushSink,
      Request.cost, Node.cost, Sink.reserve, WrapSink.fresh]
    dsimp only
    omega
  | argument hu =>
    rw [potential, State.reserve_cons rfl fun _ ↦ rfl, hu.reserve, State.reserve_pushSink,
      Request.cost, Node.cost, Sink.reserve]
    omega
  | enter hc ht hu =>
    have h := State.callee_cost rounds ((hu.callee _).trans hc) ht
    rw [potential, State.reserve_cons rfl fun _ ↦ rfl, ← hu.reserve, Request.cost, Node.cost]
    simp only [State.reserve, Walk.calleeState]
    omega
  | callback hu =>
    rw [potential, State.reserve_cons rfl fun _ ↦ rfl, hu.reserve]
    exact Nat.le_refl _

/-- What a task asks for may use up less than the task, unless both are calls of function values:
then it may use up as much. -/
theorem Run.Asks.potential_lt {r : Request} (h : (Walk.start host r.1 r.2).Asks host task u)
    (hr : ∀ n, running n ((task, u) :: r :: stack) ≤ rounds) :
    potential rounds ((task, u) :: r :: stack) < potential rounds (r :: stack) ∨
      (task.isCall ∧ r.1.isCall) ∧
        potential rounds ((task, u) :: r :: stack) ≤ potential rounds (r :: stack) := by
  obtain ⟨t, s⟩ := r
  have ha := (Walk.start_meets t s).asked Walk.start_meets h
  cases t with
  | walk nodes dot | enter nodes dot | render nodes dot =>
    obtain ⟨n, hn, ha⟩ := ha
    have hp := ha.potential_le hr
    have hcost : n.cost rounds < costOf rounds nodes := Node.cost_lt hn
    left
    apply Nat.lt_of_le_of_lt hp
    exact Nat.add_lt_add_left hcost _
  | call f args =>
    have h := State.Requests.potential_le ha hr
    cases hc : task.isCall with
    | false =>
      left
      rw [hc] at h
      exact Nat.lt_succ_of_le h
    | true =>
      right
      rw [hc] at h
      exact ⟨⟨rfl, rfl⟩, h⟩
  | invoke handle dot args =>
    obtain ⟨b, hb, rfl, rfl⟩ := ha
    have hs : (s.withArguments b args).reserve rounds ((.invoke handle dot args, s) :: stack) =
        s.reserve rounds ((.invoke handle dot args, s) :: stack) :=
      ((Level.refl s : Level host s s).withArguments b args).reserve
    left
    rw [potential, State.reserve_cons rfl fun _ ↦ rfl, hs, potential, Request.cost, Request.cost,
      (Walk.activeBlock?_some hb).1]
    simp only [Option.map_some, Option.getD_some]
    omega
  | callback call body dot =>
    have h := State.Requests.potential_le ha hr
    have ho := State.reserve_openBlock rounds ((.callback call body dot, s) :: stack) s body
    have hp : potential rounds ((.callback call body dot, s) :: stack) =
        s.reserve rounds ((.callback call body dot, s) :: stack)
          + (3 + rounds * costOf rounds body) := rfl
    left
    split at h
    · omega
    · omega

end

/-! ### Bounds -/

/-- At no moment after a request are more invocations of one handle open in a render. -/
def Request.Bounded (host : Host) (start : Request) (rounds : Nat) : Prop :=
  ∀ stack, Moment host start stack → ∀ handle, running handle stack ≤ rounds

/-- How deep tasks nest, not counting calls of function values. -/
def nesting (stack : List Request) : Nat := stack.countP fun r ↦ !r.1.isCall

private theorem Request.one_le_cost (rounds : Nat) (r : Request) : 1 ≤ r.cost rounds := by
  obtain ⟨task, s⟩ := r
  cases task with
  | walk nodes dot | enter nodes dot | render nodes dot => exact one_le_costOf rounds nodes
  | call f args => exact Nat.le_succ 1
  | invoke handle dot args => exact Nat.le_add_right ..
  | callback call body dot => exact Nat.le_trans (Nat.le_add_left 1 2) (Nat.le_add_right ..)

/-- As tasks nest deeper, the potential goes down. -/
theorem Moment.nesting_add_potential {start request : Request} {rest : List Request}
    (hb : start.Bounded host rounds) (hs : start.1.isCall = false)
    (h : Moment host start (request :: rest)) :
    nesting (request :: rest) + potential rounds (request :: rest) ≤
      potential rounds [start] + 1 := by
  generalize hl : request :: rest = stack at h
  induction h generalizing request rest with
  | start =>
    rw [nesting, List.countP_cons, hs]
    exact Nat.le_of_eq (Nat.add_comm ..)
  | @ask task u stack parent hm ha ih =>
    cases hl
    have ih := ih rfl
    have hp := ha.potential_lt (hb _ (.ask hm ha))
    have hn : nesting ((task, u) :: parent :: stack) ≤ nesting (parent :: stack) + 1 := by
      rw [nesting, List.countP_cons]
      split
      · exact Nat.le_refl _
      · exact Nat.le_succ _
    rcases hp with hp | ⟨⟨hc, -⟩, hp⟩
    · omega
    · have hn : nesting ((task, u) :: parent :: stack) = nesting (parent :: stack) := by
        rw [nesting, List.countP_cons, hc]
        rfl
      omega

/-- Tasks nest no deeper than the potential is at the start. -/
theorem Moment.nesting_le {start : Request} {stack : List Request}
    (hb : start.Bounded host rounds) (hs : start.1.isCall = false)
    (h : Moment host start stack) : nesting stack ≤ potential rounds [start] := by
  cases stack with
  | nil => exact Nat.zero_le _
  | cons request rest =>
    have hn := h.nesting_add_potential hb hs
    have hc := request.one_le_cost rounds
    rw [potential] at hn
    omega

end TextTemplate
