import TextTemplate.Proofs.Requests

/-!
# What tasks ask for

A task that walks nodes asks for what their pipelines ask for, for the bodies of the nodes, for the
nodes of called templates and for the calls of callback blocks. Every task returns at the level at
which it began (`Walk.start_meets`), so that whatever a node asks for meets the variables, the
sinks and the blocks where the node expects them.
-/

set_option autoImplicit false

namespace TextTemplate

variable {host : Host} {s : State}

/-- The bodies of a node that are walked with the output and the functions around the node. -/
def Node.parts : Node → List (List Node)
  | .branch _ _ _ body otherwise => body :: otherwise.toList
  | .list _ nodes => [nodes]
  | .wrap _ _ _ _ after otherwise => after.toList ++ otherwise.toList
  | _ => []

/-- Whether the variables that a node declares are dropped after it. -/
def Node.isScope : Node → Bool
  | .branch .. | .wrap .. | .block .. => true
  | _ => false

/-- What a node may ask for where its walk begins in a state. -/
inductive Node.Requests (host : Host) (s : State) : Node → Task → State → Prop where
  | eval {n : Node} {task : Task} {u : State} :
      s.Requests host anyCall task u → Requests host s n task u
  | part {n : Node} {body : List Node} {dot : Value} {u : State} :
      body ∈ n.parts → Level host s u → Requests host s n (.walk body dot) u
  | content {span : Span} {pipe : Option Pipe} {body : List Node}
      {before after otherwise : Option (List Node)} {dot : Value} {u : State} :
      Level host (s.pushSink (.wrap (.fresh (Node.strips pipe) before dot))) u →
        Requests host s (.wrap span pipe body before after otherwise) (.walk body dot) u
  | argument {span : Span} {pipe : Pipe} {body : List Node} {dot : Value} {u : State} :
      Level host (s.pushSink (.buffer .empty)) u →
        Requests host s (.block .arg span pipe body) (.walk body dot) u
  | enter {span : Span} {name : String} {pipe : Option Pipe} {template : Template} {tree : Tree}
      {dot : Value} {args : List Value} {u : State} :
      s.callee name = .ok template → template.tree = some tree → Level host s u →
        Requests host s (.template span name pipe) (.enter tree.root dot)
          (Walk.calleeState template tree dot args u)
  | callback {span : Span} {pipe : Pipe} {body : List Node} {call : Command} {dot : Value}
      {u : State} :
      Level host s u → Requests host s (.block .callback span pipe body) (.callback call body dot) u

private theorem Node.Requests.mono {n : Node} {t : State} {task : Task} {u : State}
    (h : Level host s t) (hr : n.Requests host t task u) : n.Requests host s task u := by
  cases hr with
  | eval hr => exact .eval (hr.mono h)
  | part hb hu => exact .part hb (h.trans hu)
  | content hu => exact .content ((h.pushSink _).trans hu)
  | argument hu => exact .argument ((h.pushSink _).trans hu)
  | enter hc ht hu => exact .enter ((h.callee _).symm.trans hc) ht (h.trans hu)
  | callback hu => exact .callback (h.trans hu)

/-- The state in which the body of a callback block begins. -/
def State.withArguments (b : Block) (args : List Value) (s : State) : State :=
  let held := s.resources.hold (.list args none)
  { s with
    vars := (s.vars.setAt (b.base + 1) held.1).setAt (b.base + 2) (.ofNat args.length)
    resources := held.2 }

/-- What a task may ask for. -/
def Task.Requests (host : Host) : Task → State → Task → State → Prop
  | .walk nodes _, s | .enter nodes _, s | .render nodes _, s =>
    fun task u ↦ ∃ n ∈ nodes, n.Requests host s task u
  | .call _ _, s => s.Requests host anyCall
  | .invoke handle dot args, s =>
    fun task u ↦ ∃ b, Walk.activeBlock? s handle = some b ∧ task = .walk b.body dot ∧
      u = s.withArguments b args
  | .callback _ body _, s => (Walk.openBlock body s).Requests host anyCall

namespace Level

variable {u v : State}

/-- The arguments of a block may be set. -/
theorem withArguments (h : Level host s u) (b : Block) (args : List Value) :
    Level host s (u.withArguments b args) where
  outline := h.outline
  names := by
    simp only [State.withArguments, Bindings.names_setAt]
    exact h.names
  built := h.built

/-- The block that a callback opened is closed again. -/
theorem closeBlock {body : List Node} (h : Level host (Walk.openBlock body s) u) :
    Level host s { u with blocks := u.blocks.tail } where
  outline := by
    have hb : u.blocks.tail.map Block.fresh = s.blocks.map Block.fresh := by
      rw [List.map_tail, h.blocks]
      rfl
    calc ({ u with blocks := u.blocks.tail } : State).outline
        = { u.outline with blocks := u.blocks.tail.map Block.fresh } := rfl
      _ = s.outline := by rw [h.outline, hb]; rfl
  names := List.IsPrefix.trans (by simp [Walk.openBlock]) h.names
  built := h.built

private theorem popFuncs_pushFuncs (t : Template) (overrides : List (Scope FuncValue)) :
    State.popFuncs t (State.pushFuncs t overrides) = overrides := by
  simp only [State.popFuncs, State.pushFuncs]
  split
  · rfl
  · rfl

/-- A called template leaves its caller as it was. -/
theorem leaveTemplate {template : Template} {tree : Tree} {dot : Value} {args : List Value}
    (hu : Level host s u) (hv : Level host (Walk.calleeState template tree dot args u) v) :
    Level host s ((Walk.Caller.of u).restore template v) := by
  refine hu.trans ⟨?_, List.prefix_rfl, hv.built⟩
  have hd : v.depth - 1 = u.depth := by
    rw [hv.depth]
    rfl
  have ho : State.popFuncs template v.overrides = u.overrides := by
    rw [hv.overrides]
    exact popFuncs_pushFuncs ..
  calc ((Walk.Caller.of u).restore template v).outline
      = { v.outline with
          template := u.template
          depth := v.depth - 1
          overrides := State.popFuncs template v.overrides } := rfl
    _ = u.outline := by rw [hv.outline, hd, ho]; rfl

end Level

namespace Walk

variable {α : Type} {asks : Task → State → Prop} {m : Walk α}

/-- What is known of the end of a step that drops the variables it declared. -/
def LeavesScope (host : Host) (s : State) (r : Outcome α × State) : Prop :=
  Leaves host (fun v ↦ Level host s v ∧ v.vars.length = s.vars.length) r

private theorem inScope_meets (h : m.Keeps host asks (Answers host) (Level host s)) :
    (inScope m s).Meets asks (Answers host) (LeavesScope host s) := by
  apply meets_after (h s (.refl s))
  intro v hv
  exact ⟨hv.takeVars (Nat.le_refl _), List.length_take_of_le hv.length_vars⟩

namespace Keeps

private theorem optional {nodes : Option (List Node)} {dot : Value}
    (h : ∀ ns ∈ nodes, ∀ u, Level host s u → asks (.walk ns dot) u) :
    (optional nodes dot).Keeps host asks (Answers host) (Level host s) := by
  cases nodes with
  | none => exact pure ()
  | some ns => exact perform (h ns rfl)

end Keeps

/-- The evaluation of a part of a node. -/
theorem Calm.keeps {n : Node} (h : m.Calm host anyCall) :
    m.Keeps host (n.Requests host s) (Answers host) (Level host s) :=
  (h s).mono fun _ _ ↦ .eval

end Walk

/-! ### Loops -/

namespace Rounds

open Walk

variable {asks : Task → State → Prop} {l : Rounds}

/-- A round binds values to the names that are there. -/
@[simp] theorem names_bindPair (l : Rounds) (key element : Value) (isLast : Bool)
    (vars : Bindings) : (l.bindPair key element isLast vars).names = vars.names := by
  simp only [bindPair]
  split
  · simp only [Bindings.names_setFromEnd]
  · simp only [Bindings.names_setFromEnd]

private theorem bind_keeps (index : Nat) (key element : Value) (isLast : Bool) :
    (l.bind index key element isLast).Keeps host asks (Answers host) (Level host s) := by
  have set {f : Bindings → Bindings} (hf : ∀ vars, (f vars).names = vars.names) :
      (Walk.modify fun u ↦ { u with vars := f u.vars }).Keeps host asks (Answers host)
        (Level host s) :=
    Keeps.modify fun u hu ↦ hu.withVars (hf u.vars ▸ hu.names)
  unfold bind
  split
  · exact Keeps.pure _
  · split
    · apply Keeps.bind (Keeps.newObject _)
      intro v
      exact Keeps.bind (set fun _ ↦ Bindings.names_setFromEnd ..) fun _ ↦ Keeps.pure _
    · exact Keeps.bind (set fun _ ↦ Bindings.names_setFromEnd ..) fun _ ↦ Keeps.pure _
  · exact Keeps.bind (set fun _ ↦ names_bindPair ..) fun _ ↦ Keeps.pure _

variable (hm : s.vars.length ≤ l.mark)
  (hb : ∀ dot u, Level host s u → asks (.walk l.body dot) u)
include hm hb

private theorem round_keeps (index : Nat) (key element : Value) (isLast : Bool) :
    (l.round index key element isLast).Keeps host asks (Answers host) (Level host s) := by
  apply Keeps.bind (bind_keeps index key element isLast)
  intro dot
  apply Keeps.after (Keeps.perform (hb dot))
  intro u hu
  exact hu.takeVars hm

private theorem pairs_keeps (items : List (Value × Value)) (index : Nat) :
    (l.pairs index items).Keeps host asks (Answers host) (Level host s) := by
  induction items generalizing index with
  | nil => exact Keeps.pure ()
  | cons item rest ih => exact Keeps.bind (round_keeps hm hb _ _ _ _) fun _ ↦ ih (index + 1)

private theorem count_keeps (count left : Nat) :
    (l.count count left).Keeps host asks (Answers host) (Level host s) := by
  induction left with
  | zero => exact Keeps.pure ()
  | succ left ih => exact Keeps.bind (round_keeps hm hb _ _ _ _) fun _ ↦ ih

private theorem received_keeps (channel fuel index : Nat) (first : Option Value) :
    (l.received channel fuel index first).Keeps host asks (Answers host) (Level host s) := by
  induction fuel generalizing index first with
  | zero => exact Keeps.pure ()
  | succ fuel ih =>
    cases first with
    | none => exact Keeps.pure ()
    | some element =>
      apply Keeps.bind (Keeps.receive channel)
      intro next
      exact Keeps.bind (round_keeps hm hb _ _ _ _) fun _ ↦ ih (index + 1) next

private theorem rounds?_keeps {value : Value} {run : Rounds → Walk Bool}
    (h : rounds? value = some run) : (run l).Keeps host asks (Answers host) (Level host s) := by
  have pairs (items : List (Value × Value)) :
      Keeps host asks (Answers host) (Level host s) (do
        l.pairs 0 items
        return !items.isEmpty) :=
    Keeps.bind (pairs_keeps hm hb items 0) fun _ ↦ Keeps.pure _
  cases value with
  | invalid | nil =>
    cases h
    exact Keeps.pure _
  | list elements =>
    cases h
    exact pairs _
  | map entries =>
    cases h
    exact pairs _
  | int n =>
    cases h
    exact Keeps.bind (count_keeps hm hb _ _) fun _ ↦ Keeps.pure _
  | chan channel =>
    cases h
    apply Keeps.bind (Keeps.read _)
    intro queued
    apply Keeps.bind (Keeps.receive channel)
    intro first
    exact Keeps.bind (received_keeps hm hb _ _ _ _) fun _ ↦ Keeps.pure _
  | object id o =>
    simp only [rounds?, Option.map_eq_some_iff] at h
    obtain ⟨elements, -, rfl⟩ := h
    exact pairs _
  | _ => cases h

end Rounds

namespace Walk

/-! ### Nodes -/

variable {dot : Value} {pipe : Pipe} {body : List Node} {span : Span}

private theorem choose_meets (kind : BranchKind) (otherwise : Option (List Node)) :
    (choose host kind pipe body otherwise dot s).Meets
      ((Node.branch kind span pipe body otherwise).Requests host s) (Answers host)
      (LeavesScope host s) := by
  apply inScope_meets
  apply Keeps.bind pipe.eval_calm.keeps
  intro value
  split
  · exact Keeps.fail _
  · exact Keeps.perform fun _ ↦ .part List.mem_cons_self
  · apply Keeps.optional
    intro nodes hnodes _
    exact .part (List.mem_cons_of_mem _ (Option.mem_toList.mpr hnodes))

private theorem loop_meets (kind : BranchKind) (otherwise : Option (List Node)) :
    (loop host pipe body otherwise dot s).Meets
      ((Node.branch kind span pipe body otherwise).Requests host s) (Answers host)
      (LeavesScope host s) := by
  apply inScope_meets
  apply Keeps.bind pipe.eval_calm.keeps
  intro value
  dsimp only
  split
  · exact Keeps.fail _
  · next run hr =>
    have rounds : Keeps host ((Node.branch kind span pipe body otherwise).Requests host s)
        (Answers host) (Level host s) (do
          let mark ← Walk.read fun s ↦ s.vars.length
          let any ← run ⟨pipe.declarations, body, value.indirect, dot, mark⟩
          Walk.optional (if any then none else otherwise) dot) := by
      apply Keeps.read_bind
      intro u hu
      apply Keeps.bind
        (Rounds.rounds?_keeps hu.length_vars (fun _ _ ↦ .part List.mem_cons_self) hr)
      intro any
      apply Keeps.optional
      intro nodes hnodes _
      cases any with
      | true => cases hnodes
      | false => exact .part (List.mem_cons_of_mem _ (Option.mem_toList.mpr hnodes))
    split
    · exact Keeps.bind (Keeps.fail _) fun _ ↦ rounds
    · exact rounds

private theorem wrap_meets (pipe : Option Pipe) (before after otherwise : Option (List Node)) :
    (wrap (Node.strips pipe) body before after otherwise dot s).Meets
      ((Node.wrap span pipe body before after otherwise).Requests host s) (Answers host)
      (LeavesScope host s) := by
  apply inScope_meets
  apply Keeps.withSink (Keeps.perform fun _ ↦ .content)
  intro result v hv
  rw [read_bind, modify_bind]
  refine Keeps.bind (Keeps.ofExcept result) (fun _ ↦ Keeps.optional ?_) _ hv.popSink
  intro nodes hnodes _
  apply Node.Requests.part
  split at hnodes
  · exact List.mem_append_left _ (Option.mem_toList.mpr hnodes)
  · exact List.mem_append_right _ (Option.mem_toList.mpr hnodes)

private theorem argBlock_meets :
    (argBlock host pipe body dot s).Meets
      ((Node.block .arg span pipe body).Requests host s) (Answers host) (LeavesScope host s) := by
  apply inScope_meets
  apply Keeps.bind (blockCall_calm pipe).keeps
  intro (call, dot)
  apply Keeps.bind (Keeps.capture (Keeps.perform fun _ ↦ .argument))
  intro bytes
  have args : ∀ m ∈ Operand.arguments host dot call.operands.tail ++
      [Pure.pure (.text (Text.decodeText bytes))], m.Calm host anyCall := by
    refine List.forall_mem_append.mpr ⟨Operand.arguments_calm _, ?_⟩
    exact List.forall_mem_singleton.mpr (.pure _)
  apply Keeps.bind (Command.evalWith_calm args call).keeps
  intro value
  exact (printResult_calm pipe value).keeps

private theorem callbackBlock_meets :
    (callbackBlock host pipe body dot s).Meets
      ((Node.block .callback span pipe body).Requests host s) (Answers host)
      (LeavesScope host s) := by
  apply inScope_meets
  apply Keeps.bind (blockCall_calm pipe).keeps
  intro (call, dot)
  apply Keeps.bind (Keeps.ask fun _ ↦ .callback)
  intro value
  exact (printResult_calm pipe value).keeps

private theorem enterTemplate_keeps {name : String} {call : Option Pipe} {template : Template}
    {tree : Tree} (hc : s.callee name = .ok template) (ht : template.tree = some tree)
    (node : Node) (args : List Value) :
    (enterTemplate span node name template tree dot args).Keeps host
      ((Node.template span name call).Requests host s) (Answers host) (Level host s) := by
  apply Keeps.bind (Keeps.setPlace _ _)
  intro _ u hu
  rw [read_bind, modify_bind]
  apply meets_mapError
  apply meets_after (perform_meets (.enter hc ht hu))
  intro v hv
  exact hu.leaveTemplate hv

private theorem callTemplate_keeps (name : String) (pipe : Option Pipe) :
    (callTemplate host span name pipe dot).Keeps host
      ((Node.template span name pipe).Requests host s) (Answers host) (Level host s) := by
  apply Keeps.read_bind
  intro u hu
  apply Keeps.ofExcept_bind
  intro template hc
  have hc := (hu.callee name).symm.trans hc
  split
  · exact Keeps.fail _
  · next tree ht =>
    apply Keeps.bind (callArguments_calm pipe).keeps
    intro (dot, args)
    dsimp only
    split
    · exact Keeps.bind (Keeps.fail _) fun _ ↦ enterTemplate_keeps hc ht _ args
    · exact enterTemplate_keeps hc ht _ args

/-- What is known of the end of a node. -/
def LeavesNode (host : Host) (n : Node) (s : State) (r : Outcome Unit × State) : Prop :=
  Leaves host (fun v ↦ Level host s v ∧ (n.isScope → v.vars.length = s.vars.length)) r

/-- A node asks for what it may ask for, and returns at the level at which it began. -/
theorem node_meets (n : Node) :
    (node host dot n s).Meets (n.Requests host s) (Answers host) (LeavesNode host n s) := by
  have scope {m : Walk Unit}
      (h : (m s).Meets (n.Requests host s) (Answers host) (LeavesScope host s)) :
      (m s).Meets (n.Requests host s) (Answers host) (LeavesNode host n s) := by
    apply h.mono (fun _ _ h ↦ h)
    intro r hr
    exact hr.mono fun _ hv ↦ ⟨hv.1, fun _ ↦ hv.2⟩
  have plain {m : Walk Unit} (hn : n.isScope = false)
      (h : m.Keeps host (n.Requests host s) (Answers host) (Level host s)) :
      (m s).Meets (n.Requests host s) (Answers host) (LeavesNode host n s) := by
    apply (h s (.refl s)).mono (fun _ _ h ↦ h)
    intro r hr
    exact hr.mono fun _ hv ↦ ⟨hv, by simp [hn]⟩
  cases n with
  | text span t => exact plain rfl (write_calm _).keeps
  | action span pipe =>
    apply plain rfl
    apply Keeps.bind pipe.eval_calm.keeps
    intro value
    split
    · exact (printValue_calm pipe value).keeps
    · exact Keeps.pure _
  | branch kind span pipe body otherwise =>
    cases kind with
    | loop => exact scope (loop_meets _ _)
    | cond | scope => exact scope (choose_meets _ _)
  | template span name pipe => exact plain rfl (callTemplate_keeps name pipe)
  | list span nodes =>
    exact plain rfl (Keeps.perform fun _ ↦ .part List.mem_cons_self)
  | wrap span pipe body before after otherwise => exact scope (wrap_meets _ _ _ _)
  | block kind span pipe body =>
    cases kind with
    | arg => exact scope argBlock_meets
    | callback => exact scope callbackBlock_meets

/-! ### Tasks -/

/-- A walk of nodes asks for what each of them asks for, and keeps the level. -/
theorem each_keeps {asks : Task → State → Prop} (nodes : List Node)
    (h : ∀ n ∈ nodes, ∀ t u, n.Requests host s t u → asks t u) :
    (each host dot nodes).Keeps host asks (Answers host) (Level host s) := by
  induction nodes with
  | nil => exact Keeps.pure ()
  | cons n rest ih =>
    rw [List.forall_mem_cons] at h
    have hnode : (node host dot n).Keeps host asks (Answers host) (Level host s) := by
      intro u hu
      apply (node_meets n).mono (fun t v hr ↦ h.1 t v (hr.mono hu))
      intro r hr
      exact hr.mono fun _ hv ↦ hu.trans hv.1
    apply Keeps.bind (Keeps.setPlace _ _)
    intro _
    exact Keeps.bind (Keeps.mapError hnode) fun _ ↦ ih h.2

private theorem setVariable_keeps {place : Nat} (v : Value) {asks : Task → State → Prop}
    (h : place < s.vars.length) :
    (setVariable place v).Keeps host asks (Answers host) (Level host s) := by
  apply Keeps.changeAt
  · intro u hu
    exact Nat.lt_of_lt_of_le h hu.length_vars
  · intro u hu
    apply hu.withVars
    rw [Bindings.names_setAt]
    exact hu.names

private theorem setCalls_keeps {handle : Nat} (calls : Nat) {asks : Task → State → Prop}
    (h : handle < s.blocks.length) :
    (setCalls handle calls).Keeps host asks (Answers host) (Level host s) := by
  apply Keeps.changeAt
  · intro u hu
    rw [hu.length_blocks]
    exact h
  · intro u hu
    exact hu.withBlocks (Stack.map_modify fun _ _ ↦ rfl)

private theorem hold_bind {α : Type} (v : Value) (k : Value → Walk α) :
    (hold v >>= k) s =
      k (s.resources.hold v).1 { s with resources := (s.resources.hold v).2 } := rfl

private theorem setVariable_bind {α : Type} {place : Nat} (v : Value) (k : Unit → Walk α)
    (h : place < s.vars.length) :
    (setVariable place v >>= k) s = k () { s with vars := s.vars.setAt place v } := by
  rw [bind_run, setVariable, changeAt, if_pos h]
  rfl

/-- A block that is active is there, and so are its three variables. -/
theorem activeBlock?_some {handle : Nat} {b : Block} (h : activeBlock? s handle = some b) :
    Stack.get? s.blocks handle = some b ∧ b.base + 3 ≤ s.vars.length := by
  simpa [activeBlock?, Option.filter_eq_some_iff] using h

/-- An active block is invoked with its arguments in place. -/
theorem invokeBlock_some {handle : Nat} {b : Block} (args : List Value)
    (h : activeBlock? s handle = some b) :
    invokeBlock handle dot args s = runBody handle b dot (s.withArguments b args) := by
  have hlen := (activeBlock?_some h).2
  rw [invokeBlock, read_bind, h]
  dsimp only
  rw [hold_bind, setVariable_bind _ _ (by dsimp only; omega),
    setVariable_bind _ _ (by rw [Bindings.length_setAt]; dsimp only; omega)]
  rfl

private theorem runBody_meets {asks : Task → State → Prop} {handle : Nat} {b : Block}
    (hb : handle < s.blocks.length) (hv : b.base < s.vars.length)
    (ha : asks (.walk b.body dot) s) :
    (runBody handle b dot s).Meets asks (Answers host) (Leaves host (Level host s)) := by
  rw [runBody, read_bind]
  have hwalk : ((Walk.nodes b.body dot).after fun v ↦
      { v.truncateSinks s.sinks.length with
        vars := v.vars.take s.vars.length
        place := s.place }) s |>.Meets asks (Answers host) (Leaves host (Level host s)) := by
    apply meets_after (perform_meets ha)
    intro u hu
    rw [hu.truncateSinks_self (Nat.le_refl _)]
    exact (hu.takeVars (Nat.le_refl _)).withPlace _
  refine meets_bind hwalk ?_ (fun _ _ h ↦ h) fun _ _ h ↦ h
  intro _
  exact Keeps.bind (setCalls_keeps _ hb) fun _ ↦ setVariable_keeps _ hv

private theorem invokeBlock_meets (handle : Nat) (args : List Value) :
    (invokeBlock handle dot args s).Meets (Task.Requests host (.invoke handle dot args) s)
      (Answers host) (Leaves host (Level host s)) := by
  cases hb : activeBlock? s handle with
  | none =>
    rw [invokeBlock, read_bind, hb]
    exact .refl s
  | some b =>
    obtain ⟨hg, hlen⟩ := activeBlock?_some hb
    have began : Level host s (s.withArguments b args) := (Level.refl s).withArguments b args
    rw [invokeBlock_some args hb]
    have asked : Task.Requests host (.invoke handle dot args) s (.walk b.body dot)
        (s.withArguments b args) := ⟨b, hb, rfl, rfl⟩
    have hvars := began.length_vars
    have hv : b.base < (s.withArguments b args).vars.length := by omega
    have hn : handle < (s.withArguments b args).blocks.length := Stack.get?_lt hg
    exact meets_trans began (runBody_meets hn hv asked)

private theorem callWithBlock_meets (call : Command) (body : List Node) :
    (callWithBlock host call body dot s).Meets
      (Task.Requests host (.callback call body dot) s) (Answers host)
      (Leaves host (Level host s)) := by
  rw [callWithBlock, read_bind, modify_bind]
  have args : ∀ m ∈ [Pure.pure dot, Pure.pure (.block s.blocks.length)] ++
      Operand.arguments host dot call.operands.tail, m.Calm host anyCall := by
    refine List.forall_mem_append.mpr ⟨?_, Operand.arguments_calm _⟩
    simp only [List.mem_cons, List.not_mem_nil, or_false, forall_eq_or_imp, forall_eq]
    exact ⟨.pure _, .pure _⟩
  apply meets_after (Command.evalWith_calm args call _ _ (.refl _))
  intro u hu
  exact hu.closeBlock

/-- A task asks for what it may ask for, and returns at the level at which it began. -/
theorem start_meets (task : Task) (s : State) :
    (start host task s).Meets (task.Requests host s) (Answers host) (Answers host s) := by
  have walked (nodes : List Node) (dot : Value) :
      ((each host dot nodes >>= fun _ ↦ Pure.pure Value.invalid) s).Meets
        (fun t u ↦ ∃ n ∈ nodes, n.Requests host s t u) (Answers host) (Answers host s) := by
    have hnodes : (each host dot nodes).Keeps host (fun t u ↦ ∃ n ∈ nodes, n.Requests host s t u)
        (Answers host) (Level host s) :=
      each_keeps nodes fun n hn _ _ hr ↦ ⟨n, hn, hr⟩
    exact Keeps.bind hnodes (fun _ ↦ Keeps.pure _) s (.refl s)
  cases task with
  | walk nodes dot => exact walked nodes dot
  | enter nodes dot => exact walked nodes dot
  | render nodes dot => exact walked nodes dot
  | call f args =>
    exact callValue_keeps (fun _ _ _ _ ha ↦ Function.program_within ha) s (.refl s)
  | invoke handle dot args =>
    exact meets_bind (invokeBlock_meets handle args) (fun _ _ h ↦ h) (fun _ _ h ↦ h)
      fun _ _ h ↦ h
  | callback call body dot => exact callWithBlock_meets call body

/-- A task that returns does so at the level at which it began. -/
theorem start_level {task : Task} {o : Outcome Value} {v : State}
    (h : (start host task s).Ends host (o, v)) (ho : o.Returned) : Level host s v := by
  have hl : Answers host s (o, v) := (start_meets task s).ends start_meets h
  cases o with
  | ok _ | error _ => exact hl
  | panic _ => exact ho.elim

end Walk

end TextTemplate
