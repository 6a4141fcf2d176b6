import TextTemplate.Proofs.Nesting

/-!
# Templates without callbacks

Where neither a template nor one that it may call has a callback, no block is ever active. Then
every invocation of a handle fails at once, and none is open while another task is.
-/

set_option autoImplicit false

namespace TextTemplate

variable {host : Host}

mutual

/-- Whether no callback is in a node. -/
def Node.callbackFree : Node → Bool
  | .text .. | .action .. | .template .. => true
  | .branch _ _ _ body otherwise => allCallbackFree body && allCallbackFree? otherwise
  | .list _ nodes => allCallbackFree nodes
  | .wrap _ _ body before after otherwise =>
    allCallbackFree body && allCallbackFree? before && allCallbackFree? after
      && allCallbackFree? otherwise
  | .block .arg _ _ body => allCallbackFree body
  | .block .callback _ _ _ => false
termination_by structural n => n

/-- Whether no callback is in nodes. -/
def allCallbackFree : List Node → Bool
  | [] => true
  | n :: rest => n.callbackFree && allCallbackFree rest
termination_by structural ns => ns

/-- Whether no callback is in nodes if there are any. -/
def allCallbackFree? : Option (List Node) → Bool
  | none => true
  | some nodes => allCallbackFree nodes
termination_by structural ns => ns

end

/-- No template of a set has a callback. -/
def TemplateSet.CallbackFree (set : TemplateSet) : Prop :=
  ∀ name t tree, set.lookup name = some t → t.tree = some tree → allCallbackFree tree.root

/-- Whether no callback is in the nodes before the content of a sink. -/
def Sink.callbackFree : Sink → Bool
  | .buffer _ => true
  | .wrap w => allCallbackFree? w.before

/-- No nodes that a state leads to have a callback, and no block is active. -/
structure State.CallbackFree (s : State) : Prop where
  templates : s.exec.set.CallbackFree
  sinks : ∀ sink ∈ s.sinks, sink.callbackFree
  blocks : s.blocks = []

/-- The nodes that a task walks have no callback. -/
def Task.CallbackFree : Task → Prop
  | .walk nodes _ | .enter nodes _ | .render nodes _ => allCallbackFree nodes
  | .callback .. => False
  | .call .. | .invoke .. => True

/-- Neither a task nor the state in which it begins has a callback. -/
def Request.CallbackFree (r : Request) : Prop := r.1.CallbackFree ∧ r.2.CallbackFree

/-! ### Nodes -/

private theorem Node.callbackFree_of_mem {n : Node} {nodes : List Node} (h : allCallbackFree nodes)
    (hn : n ∈ nodes) : n.callbackFree := by
  induction hn with
  | head rest =>
    rw [allCallbackFree, Bool.and_eq_true] at h
    exact h.1
  | tail other _ ih =>
    rw [allCallbackFree, Bool.and_eq_true] at h
    exact ih h.2

private theorem callbackFree_toList {body : List Node} {nodes : Option (List Node)}
    (h : allCallbackFree? nodes) (hb : body ∈ nodes.toList) : allCallbackFree body := by
  cases nodes with
  | none => cases hb
  | some nodes =>
    cases List.mem_singleton.mp hb
    exact h

private theorem Node.callbackFree_parts {n : Node} {body : List Node} (h : n.callbackFree)
    (hb : body ∈ n.parts) : allCallbackFree body := by
  cases n with
  | text | action | template => cases hb
  | block kind span pipe body => cases kind <;> cases hb
  | list span nodes =>
    cases List.mem_singleton.mp hb
    exact h
  | branch kind span pipe body otherwise =>
    rw [callbackFree, Bool.and_eq_true] at h
    cases hb with
    | head => exact h.1
    | tail _ hb => exact callbackFree_toList h.2 hb
  | wrap span pipe body before after otherwise =>
    simp only [callbackFree, Bool.and_eq_true] at h
    rcases List.mem_append.mp hb with hb | hb
    · exact callbackFree_toList h.1.2 hb
    · exact callbackFree_toList h.2 hb

/-! ### States -/

/-- What a sink has collected does not matter for its callbacks. -/
@[simp] theorem Sink.callbackFree_fresh (sink : Sink) :
    sink.fresh.callbackFree = sink.callbackFree := by
  cases sink <;> rfl

private theorem Level.callbackFree {s u : State} (h : Level host s u) (hs : s.CallbackFree) :
    u.CallbackFree where
  templates := by
    rw [h.exec]
    exact hs.templates
  sinks := by
    have fresh (sinks : List Sink) : (∀ sink ∈ sinks, sink.callbackFree) ↔
        ∀ sink ∈ sinks.map Sink.fresh, sink.callbackFree := by
      simp only [List.forall_mem_map, Sink.callbackFree_fresh]
    rw [fresh, h.sinks, ← fresh]
    exact hs.sinks
  blocks := by
    apply List.eq_nil_of_length_eq_zero
    rw [h.length_blocks, hs.blocks]
    rfl

namespace State.CallbackFree

variable {s : State}

private theorem callee (hs : s.CallbackFree) {name : String} {template : Template} {tree : Tree}
    (hc : s.callee name = .ok template) (ht : template.tree = some tree) :
    allCallbackFree tree.root :=
  hs.templates name template tree (of_callee hc).1 ht

private theorem pushSink (hs : s.CallbackFree) {sink : Sink} (h : sink.callbackFree) :
    (s.pushSink sink).CallbackFree where
  templates := hs.templates
  sinks := List.forall_mem_cons.mpr ⟨h, hs.sinks⟩
  blocks := hs.blocks

private theorem truncateSinks (hs : s.CallbackFree) (n : Nat) :
    (s.truncateSinks n).CallbackFree where
  templates := hs.templates
  sinks sink h := hs.sinks sink (List.mem_of_mem_drop h)
  blocks := hs.blocks

private theorem nestedState (hs : s.CallbackFree) (template : Template) (data : Value) :
    (Walk.nestedState s template data).CallbackFree := by
  simp only [Walk.nestedState]
  split
  · exact ⟨hs.templates, List.forall_mem_nil _, rfl⟩
  · exact ⟨hs.templates, List.forall_mem_nil _, rfl⟩

end State.CallbackFree

/-! ### What is asked for -/

section

variable {s u : State} {task : Task}

private theorem State.Requests.callbackFree {calls : Value → List Value → Prop}
    (h : s.Requests host calls task u) (hs : s.CallbackFree) :
    Request.CallbackFree (task, u) := by
  cases h with
  | call _ hu | invoke hu => exact ⟨trivial, hu.callbackFree hs⟩
  | capture hu => exact ⟨trivial, hu.callbackFree (hs.pushSink rfl)⟩
  | before hw hb hu =>
    have hn := hs.sinks _ (Stack.mem_of_get? hw)
    rw [Sink.callbackFree, hb] at hn
    exact ⟨hn, hu.callbackFree (hs.truncateSinks _)⟩
  | render hc ht hu => exact ⟨hs.callee hc ht, (hu.callbackFree hs).nestedState _ _⟩

private theorem Node.Requests.callbackFree {n : Node} (h : n.Requests host s task u)
    (hn : n.callbackFree) (hs : s.CallbackFree) : Request.CallbackFree (task, u) := by
  cases h with
  | eval h => exact h.callbackFree hs
  | part hb hu => exact ⟨Node.callbackFree_parts hn hb, hu.callbackFree hs⟩
  | content hu =>
    simp only [Node.callbackFree, Bool.and_eq_true] at hn
    exact ⟨hn.1.1.1, hu.callbackFree (hs.pushSink hn.1.1.2)⟩
  | argument hu => exact ⟨hn, hu.callbackFree (hs.pushSink rfl)⟩
  | enter hc ht hu =>
    have hv := hu.callbackFree hs
    exact ⟨hs.callee hc ht, hv.templates, hv.sinks, hv.blocks⟩
  | callback => cases hn

/-- Without callbacks, an invocation asks for nothing, and no task asks for a callback. -/
theorem Run.Asks.callbackFree {r : Request} (h : (Walk.start host r.1 r.2).Asks host task u)
    (hr : r.CallbackFree) :
    (∀ handle, r.1.invokes handle = false) ∧ Request.CallbackFree (task, u) := by
  obtain ⟨t, s⟩ := r
  obtain ⟨ht, hs⟩ := hr
  have ha := (Walk.start_meets t s).asked Walk.start_meets h
  cases t with
  | walk nodes dot | enter nodes dot | render nodes dot =>
    obtain ⟨n, hn, ha⟩ := ha
    exact ⟨fun _ ↦ rfl, ha.callbackFree (Node.callbackFree_of_mem ht hn) hs⟩
  | call f args => exact ⟨fun _ ↦ rfl, State.Requests.callbackFree ha hs⟩
  | invoke handle dot args =>
    obtain ⟨b, hb, -⟩ := ha
    have hg := (Walk.activeBlock?_some hb).1
    rw [hs.blocks] at hg
    cases hg
  | callback => exact ht.elim

end

/-! ### Moments -/

variable {start : Request} {stack : List Request}

/-- Without callbacks, only the innermost task may be an invocation. -/
theorem Moment.callbackFree (h : Moment host start stack) (hs : start.CallbackFree) :
    (∀ r ∈ stack, r.CallbackFree) ∧
      ∀ r ∈ stack.tail, ∀ handle, r.1.invokes handle = false := by
  induction h with
  | start => exact ⟨List.forall_mem_singleton.mpr hs, List.forall_mem_nil _⟩
  | @ask task u stack parent hm ha ih =>
    obtain ⟨free, calm⟩ := ih
    obtain ⟨hparent, hu⟩ := ha.callbackFree (free parent List.mem_cons_self)
    exact ⟨List.forall_mem_cons.mpr ⟨hu, free⟩, List.forall_mem_cons.mpr ⟨hparent, calm⟩⟩

private theorem running_eq_zero {handle : Nat} (h : ∀ r ∈ stack, r.1.invokes handle = false) :
    running handle stack = 0 := by
  induction stack with
  | nil => rfl
  | cons r rest ih =>
    rw [List.forall_mem_cons] at h
    rw [running, h.1, ih h.2]
    exact ite_self _

/-- Without callbacks, no handle is invoked within an invocation. -/
theorem Request.bounded_of_callbackFree (hs : start.CallbackFree) : start.Bounded host 1 := by
  intro stack hm handle
  cases stack with
  | nil => exact Nat.zero_le _
  | cons r rest =>
    have hrest : running handle rest = 0 :=
      running_eq_zero fun q hq ↦ (hm.callbackFree hs).2 q hq handle
    have hr := Bool.toNat_le (r.1.invokes handle)
    rw [running, hrest]
    split
    · exact Nat.zero_le _
    · exact hr

/-- A render of templates without callbacks begins without callbacks. -/
theorem Executor.callbackFree_request {e : Executor} {tree : Tree} {data : Value} {w : Writer}
    {r : Resources} (he : e.set.CallbackFree) (ht : allCallbackFree tree.root) :
    (e.request tree data w r).CallbackFree :=
  ⟨ht, he, List.forall_mem_nil _, rfl⟩

end TextTemplate
