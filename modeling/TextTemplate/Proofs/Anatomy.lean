import TextTemplate.Proofs.Fresh
import TextTemplate.Render.Node

/-!
# What evaluation and walks are made of

The evaluation of expressions and the walk of nodes are made of a few kinds of steps (`Walk.Made`):
they look at the state, change the variables and the place, make values, write text, call functions,
and ask for nodes. What holds of these steps, and of steps one after the other, holds of all of
evaluation and of every walk (`Walk.each_made`).
-/

set_option autoImplicit false

namespace TextTemplate

variable {α β : Type} {host : Host}

namespace State

/-- Two states are alike if evaluation cannot tell them apart by looking at them. They may differ in
their output, in the layers that functions come from, and in the local data. -/
structure Alike (s t : State) : Prop where
  template : s.template = t.template
  vars : s.vars = t.vars
  globals : s.globals = t.globals
  depth : s.depth = t.depth
  data : s.data = t.data
  missingKey : s.missingKey = t.missingKey
  overrides : s.overrides = t.overrides
  place : s.place = t.place
  set : s.exec.set = t.exec.set
  options : s.exec.options = t.exec.options
  functions : s.exec.findFunc? = t.exec.findFunc?
  fullPath : s.exec.fullPath = t.exec.fullPath
  channels : s.resources.channels = t.resources.channels

/-- A view of the state that gives the same of states that are alike. -/
def Seen (f : State → α) : Prop := ∀ s t, s.Alike t → f s = f t

namespace Alike

variable {s t : State}

private theorem lookup (h : s.Alike t) (name : String) : s.lookup name = t.lookup name := by
  rw [State.lookup, State.lookup, h.globals, h.vars]

private theorem valueOf (h : s.Alike t) (name : String) : s.valueOf name = t.valueOf name := by
  rw [State.valueOf, State.valueOf, h.lookup]

/-- States that are alike find the same functions. -/
theorem findFunc? (h : s.Alike t) (name : String) : s.findFunc? name = t.findFunc? name := by
  rw [State.findFunc?, State.findFunc?, h.template, h.overrides, h.functions, h.data]

/-- States that are alike call the same templates. -/
theorem callee (h : s.Alike t) (name : String) : s.callee name = t.callee name := by
  rw [State.callee, State.callee, h.set, h.options, h.depth]

private theorem queued (h : s.Alike t) : s.resources.queued = t.resources.queued := by
  funext channel
  rw [Resources.queued, Resources.queued, Resources.queue, Resources.queue, h.channels]

private theorem whereabouts (h : s.Alike t) (locate : Tree → Span → String) :
    s.whereabouts locate = t.whereabouts locate := by
  rw [State.whereabouts, State.whereabouts, h.place, h.template]

private theorem site (h : s.Alike t) : s.site = t.site := by
  rw [State.site, State.site, h.whereabouts, h.template, h.fullPath]

/-- States that are alike are at the same place. -/
theorem locate (h : s.Alike t) : s.locate = t.locate := by
  funext e
  rw [State.locate, State.locate, h.site, h.place]

end Alike

end State

namespace Walk

/-- The steps that evaluation and the walk of nodes are made of. -/
inductive Made (host : Host) : {α : Type} → Walk α → Prop where
  | pure {α : Type} (a : α) : Made host (Pure.pure a : Walk α)
  | fail {α : Type} {e : EvalError} : e.frames = [] → Made host (Walk.fail e : Walk α)
  | read {α : Type} {f : State → α} : State.Seen f → Made host (Walk.read f)
  /-- Looks for something that may not be there. -/
  | find {α : Type} {f : State → Except EvalError α} :
      State.Seen f → (∀ s, Fresh (f s)) → Made host (Walk.read f >>= Walk.ofExcept)
  | hold (v : Value) : Made host (Walk.hold v)
  | newObject (o : Object) : Made host (Walk.newObject o)
  | receive (channel : Nat) : Made host (Walk.receive channel)
  | setVars (f : Bindings → Bindings) :
      Made host (Walk.modify fun s ↦ { s with vars := f s.vars })
  | setPlace (span : Span) (subject : Subject) : Made host (Walk.setPlace span subject)
  | resolve (f : FuncValue) : Made host (Walk.resolve host f)
  | call (f : Function) (name : String) (args : List Value) :
      Made host (callFunction host f name args)
  | text (s : String) : Made host (writeText s)
  | nodes (ns : List Node) (dot : Value) : Made host (Walk.nodes ns dot)
  | collect (ns : List Node) (dot : Value) : Made host (capture (Walk.nodes ns dot))
  | wrap (strip : Bool) (body : List Node) (before after otherwise : Option (List Node))
      (dot : Value) : Made host (Walk.wrap strip body before after otherwise dot)
  | callback (call : Command) (body : List Node) (dot : Value) :
      Made host (ask (.callback call body dot))
  | enter (span : Span) (name : String) (pipe : Option Pipe) (template : Template) (tree : Tree)
      (dot : Value) (args : List Value) :
      Made host (enterTemplate span (.template span name pipe) name template tree dot args)
  | bind {α β : Type} {m : Walk α} {f : α → Walk β} :
      Made host m → (∀ a, Made host (f a)) → Made host (m >>= f)
  | afterVars {α : Type} {m : Walk α} (f : Bindings → Bindings) :
      Made host m → Made host (m.after fun s ↦ { s with vars := f s.vars })
  | located {α : Type} {m : Walk α} : Made host m → Made host (m.mapError State.locate)

namespace Made

variable {m : Walk α}

private theorem ofExcept {x : Except EvalError α} (h : Fresh x) : Made host (Walk.ofExcept x) := by
  cases x with
  | ok a => exact .pure a
  | error e =>
    exact .fail (h.frames e rfl)

private theorem read_bind {f : State → α} {k : α → Walk β} (hf : State.Seen f)
    (hk : ∀ a, Made host (k a)) : Made host (Walk.read f >>= k) :=
  .bind (.read hf) hk

/-- What comes after something that was looked for and found. -/
theorem find_bind {f : State → Except EvalError α} {k : α → Walk β} (hf : State.Seen f)
    (hp : ∀ s, Fresh (f s)) (hk : ∀ a, Made host (k a)) :
    Made host (Walk.read f >>= fun x ↦ Walk.ofExcept x >>= k) := by
  show Made host ((Walk.read f >>= Walk.ofExcept) >>= k)
  exact .bind (.find hf hp) hk

private theorem inScope (hm : Made host m) : Made host (Walk.inScope m) := by
  apply Made.read_bind fun s t h ↦ by rw [h.vars]
  intro mark
  exact hm.afterVars fun vars ↦ vars.take mark

private theorem optional (nodes : Option (List Node)) (dot : Value) :
    Made host (Walk.optional nodes dot) := by
  cases nodes with
  | none => exact .pure ()
  | some nodes => exact .nodes nodes dot

end Made

end Walk

/-! ### Expressions -/

namespace Walk

private theorem assign_made (name : String) (value : Value) : Made host (assign name value) := by
  apply Made.read_bind fun s t h ↦ by rw [h.vars]
  intro vars
  split
  · next assigned _ => exact .setVars fun _ ↦ assigned
  · exact .fail rfl

private theorem declare_made (value : Value) (d : Declaration) : Made host (declare value d) := by
  rw [declare]
  split
  · exact .setVars fun vars ↦ vars ++ [(d.name, value)]
  · exact assign_made _ value
  · apply Made.read_bind fun s t h ↦ by rw [h.vars]
    intro vars
    split
    · apply Made.bind (.ofExcept (Operator.eval_fresh ..))
      intro v
      exact .bind (.hold v) fun v ↦ assign_made _ v
    · exact .fail rfl

private theorem declareAll_made (value : Value) (ds : List Declaration) :
    Made host (declareAll value ds) := by
  induction ds with
  | nil => exact .pure ()
  | cons d rest ih => exact .bind (declare_made value d) fun _ ↦ ih

private theorem values_made {args : List (Walk Value)} (h : ∀ m ∈ args, Made host m) :
    Made host (values args) := by
  induction args with
  | nil => exact .pure []
  | cons m rest ih =>
    rw [List.forall_mem_cons] at h
    apply Made.bind h.1
    intro v
    exact .bind (ih h.2) fun _ ↦ .pure _

private theorem noArguments_made (subject : String) (args : List (Walk Value)) (last : Value) :
    Made host (noArguments subject args last) := by
  rw [noArguments]
  split
  · exact .pure ()
  · exact .fail rfl

variable {args : List (Walk Value)} (h : ∀ m ∈ args, Made host m)
include h

private theorem call_made (f : Function) (name : String) (last : Value) :
    Made host (call host f name args last) := by
  apply Made.bind (.ofExcept (f.checkArity_fresh ..))
  intro _
  exact .bind (values_made h) fun vs ↦ .call f name _

private theorem callNamed_made (name : String) (last : Value) :
    Made host (callNamed host name args last) := by
  apply Made.read_bind fun s t h ↦ h.findFunc? name
  intro found
  split
  · exact .bind (.resolve _) fun f ↦ call_made h f name last
  · exact .fail rfl

private theorem member_made (receiver : Value) (name : String) (optional : Bool) (last : Value) :
    Made host (member host receiver name optional args last) := by
  apply Made.read_bind fun s t h ↦ by rw [h.options, h.missingKey]
  intro found
  split
  · exact .pure _
  · split
    · exact .pure _
    · exact .fail rfl
  · exact .bind (.resolve _) fun f ↦ call_made h f name last
  · exact .fail rfl

private theorem path_made (optional : Bool) (last receiver : Value) (names : List String) :
    Made host (path host optional args last receiver names) := by
  induction names generalizing receiver with
  | nil => exact .pure receiver
  | cons name rest ih =>
    cases rest with
    | nil => exact member_made h receiver name optional last
    | cons next rest =>
      exact .bind (member_made (List.forall_mem_nil _) receiver name optional _) ih

private theorem identifier_made (name : String) (last : Value) :
    Made host (identifier host name args last) := by
  unfold identifier
  split
  · exact .read fun s t h ↦ h.data
  · exact .find (fun s t h ↦ h.valueOf _) fun s ↦ s.valueOf_fresh _
  · exact callNamed_made h name last

end Walk

section Evaluation

open Walk

variable {dot : Value}

mutual

private theorem Operand.eval_made (o : Operand) {args : List (Walk Value)} {last : Value}
    (h : ∀ m ∈ args, Made host m) : Made host (o.eval host dot args last) := by
  cases o with
  | mk span form =>
    rw [Operand.eval]
    exact .bind (.setPlace _ _) fun _ ↦ form.eval_made span h
termination_by structural o

private theorem OperandForm.eval_made (f : OperandForm) (span : Span) {args : List (Walk Value)}
    {last : Value} (h : ∀ m ∈ args, Made host m) :
    Made host (f.eval host dot span args last) := by
  -- a constant takes no arguments
  have constant (subject : String) {m : Walk Value} (hm : Made host m) :
      Made host (do noArguments subject args last; m) :=
    .bind (noArguments_made subject args last) fun _ ↦ hm
  cases f with
  | field path optional =>
    rw [OperandForm.eval]
    exact path_made h optional last dot path
  | chain base path =>
    rw [OperandForm.eval]
    apply Made.bind base.argument_made
    intro receiver
    exact .bind (.setPlace _ _) fun _ ↦ path_made h false last receiver path
  | identifier name =>
    rw [OperandForm.eval]
    exact identifier_made h name last
  | «variable» name path =>
    rw [OperandForm.eval]
    apply Made.find_bind (fun s t h ↦ h.valueOf name) fun s ↦ s.valueOf_fresh name
    intro value
    split
    · exact constant _ (.pure _)
    · exact path_made h false last value path
  | dot | nil | bool | text =>
    rw [OperandForm.eval]
    exact constant _ (.pure _)
  | number n =>
    rw [OperandForm.eval]
    exact constant _ (.ofExcept n.value_fresh)
  | pipe p =>
    rw [OperandForm.eval]
    exact p.eval_made
  | expr op lhs rhs =>
    rw [OperandForm.eval]
    apply Made.bind (lhs.eval_made last)
    intro l
    apply Made.bind (rhs.eval_made last)
    intro r
    apply Made.bind (.setPlace _ _)
    intro _
    exact .bind (.ofExcept (op.eval_fresh l r)) fun v ↦ .hold v
termination_by structural f

private theorem Operand.argument_made (o : Operand) : Made host (o.argument host dot) := by
  cases o with
  | mk span form =>
    have h : Made host (do
        setPlace span (.operand (.mk span form))
        form.eval host dot span [] .invalid) :=
      .bind (.setPlace _ _) fun _ ↦ form.eval_made span (List.forall_mem_nil _)
    cases form with
    | nil => exact .pure _
    | _ => exact h
termination_by structural o

private theorem Operand.arguments_made (os : List Operand) :
    ∀ m ∈ Operand.arguments host dot os, Made host m := by
  cases os with
  | nil => exact List.forall_mem_nil _
  | cons o rest => exact List.forall_mem_cons.mpr ⟨o.argument_made, Operand.arguments_made rest⟩
termination_by structural os

private theorem Command.eval_made (c : Command) (last : Value) :
    Made host (c.eval host dot last) := by
  cases c with
  | mk span operands =>
    cases operands with
    | nil => exact .fail rfl
    | cons word args => exact word.eval_made (Operand.arguments_made args)
termination_by structural c

private theorem Command.evalAll_made (cs : List Command) (last : Value) :
    Made host (Command.evalAll host dot cs last) := by
  cases cs with
  | nil => exact .pure _
  | cons c rest => exact .bind (c.eval_made last) fun v ↦ Command.evalAll_made rest v
termination_by structural cs

private theorem Pipe.eval_made (p : Pipe) : Made host (p.eval host dot) := by
  cases p with
  | mk span declarations commands trimRight =>
    rw [Pipe.eval]
    apply Made.bind (.setPlace _ _)
    intro _
    apply Made.bind (Command.evalAll_made commands _)
    intro value
    exact .bind (declareAll_made value declarations) fun _ ↦ .pure _
termination_by structural p

end

private theorem Command.evalWith_made {args : List (Walk Value)} (h : ∀ m ∈ args, Made host m)
    (c : Command) : Made host (c.evalWith host dot args) := by
  rw [Command.evalWith]
  split
  · exact .fail rfl
  · exact Operand.eval_made _ h

end Evaluation

/-! ### Loops -/

namespace Rounds

open Walk

variable (l : Rounds)

private theorem bind_made (index : Nat) (key element : Value) (isLast : Bool) :
    Made host (l.bind index key element isLast) := by
  unfold bind
  split
  · exact .pure _
  · split
    · apply Made.bind (.newObject _)
      intro v
      exact .bind (.setVars fun vars ↦ vars.setFromEnd 1 v) fun _ ↦ .pure _
    · exact .bind (.setVars fun vars ↦ vars.setFromEnd 1 element) fun _ ↦ .pure _
  · exact .bind (.setVars fun vars ↦ l.bindPair key element isLast vars) fun _ ↦ .pure _

private theorem round_made (index : Nat) (key element : Value) (isLast : Bool) :
    Made host (l.round index key element isLast) := by
  apply Made.bind (l.bind_made index key element isLast)
  intro dot
  exact (Made.nodes l.body dot).afterVars fun vars ↦ vars.take l.mark

private theorem pairs_made (index : Nat) (items : List (Value × Value)) :
    Made host (l.pairs index items) := by
  induction items generalizing index with
  | nil => exact .pure ()
  | cons item rest ih => exact .bind (l.round_made ..) fun _ ↦ ih _

private theorem count_made (count left : Nat) : Made host (l.count count left) := by
  induction left with
  | zero => exact .pure ()
  | succ left ih => exact .bind (l.round_made ..) fun _ ↦ ih

private theorem received_made (channel fuel index : Nat) (item : Option Value) :
    Made host (l.received channel fuel index item) := by
  induction fuel generalizing index item with
  | zero => exact .pure ()
  | succ fuel ih =>
    cases item with
    | none => exact .pure ()
    | some element =>
      apply Made.bind (.receive channel)
      intro next
      exact .bind (l.round_made ..) fun _ ↦ ih _ next

end Rounds

namespace Walk

private theorem rounds_made {value : Value} {run : Rounds → Walk Bool}
    (h : rounds? value = some run) (l : Rounds) : Made host (run l) := by
  have pairs (items : List (Value × Value)) :
      Made host (do l.pairs 0 items; return !items.isEmpty : Walk Bool) :=
    .bind (l.pairs_made 0 items) fun _ ↦ .pure _
  cases value with
  | invalid | nil =>
    cases h
    exact .pure _
  | list | map =>
    cases h
    exact pairs _
  | int n =>
    cases h
    exact .bind (l.count_made ..) fun _ ↦ .pure _
  | chan channel =>
    cases h
    apply Made.read_bind fun s t h ↦ by rw [h.queued]
    intro fuel
    apply Made.bind (.receive channel)
    intro first
    exact .bind (l.received_made ..) fun _ ↦ .pure _
  | object id o =>
    simp only [rounds?, Option.map_eq_some_iff] at h
    obtain ⟨elements, -, rfl⟩ := h
    exact pairs _
  | _ => cases h

variable {dot : Value}

private theorem loop_made (pipe : Pipe) (body : List Node) (otherwise : Option (List Node)) :
    Made host (loop host pipe body otherwise dot) := by
  apply Made.inScope
  apply Made.bind pipe.eval_made
  intro value
  dsimp only
  split
  · exact .fail rfl
  · next run hrun =>
    have rounds : Made host (do
        let mark ← Walk.read fun s ↦ s.vars.length
        let any ← run ⟨pipe.declarations, body, value.indirect, dot, mark⟩
        Walk.optional (if any then none else otherwise) dot) := by
      apply Made.read_bind fun s t h ↦ by rw [h.vars]
      intro mark
      exact .bind (rounds_made hrun _) fun _ ↦ .optional _ _
    split
    · exact .bind (.fail rfl) fun _ ↦ rounds
    · exact rounds

/-! ### Nodes -/

private theorem choose_made (kind : BranchKind) (pipe : Pipe) (body : List Node)
    (otherwise : Option (List Node)) : Made host (choose host kind pipe body otherwise dot) := by
  apply Made.inScope
  apply Made.bind pipe.eval_made
  intro value
  split
  · exact .fail rfl
  · exact .nodes _ _
  · exact .optional _ _

private theorem callArguments_made (pipe : Option Pipe) :
    Made host (callArguments host pipe dot) := by
  unfold callArguments
  split
  · exact .pure _
  · split
    · apply Made.bind (Operand.argument_made _)
      intro newDot
      apply Made.bind (declareAll_made _ _)
      intro _
      exact .bind (values_made (Operand.arguments_made _)) fun _ ↦ .pure _
    · exact .bind (Pipe.eval_made _) fun _ ↦ .pure _

private theorem callTemplate_made (span : Span) (name : String) (pipe : Option Pipe) :
    Made host (callTemplate host span name pipe dot) := by
  apply Made.find_bind (fun s t h ↦ h.callee name) fun s ↦ s.callee_fresh name
  intro template
  split
  · exact .fail rfl
  · apply Made.bind (callArguments_made pipe)
    intro (newDot, args)
    dsimp only
    split
    · exact .bind (.fail rfl) fun _ ↦ .enter ..
    · exact .enter ..

private theorem printPlain_made (pipe : Pipe) (value : Value) :
    Made host (printPlain pipe value) := by
  rw [printPlain]
  split
  · exact .fail rfl
  · exact .fail rfl
  · exact .fail rfl
  · exact .text _

private theorem printValue_made (pipe : Pipe) (value : Value) :
    Made host (printValue host pipe value) := by
  unfold printValue
  split
  · apply Made.bind (.resolve _)
    intro f
    exact .bind (.call f _ _) fun _ ↦ printPlain_made pipe _
  · exact printPlain_made pipe _

private theorem printResult_made (pipe : Pipe) (value : Value) :
    Made host (printResult host pipe value) := by
  rw [printResult]
  split
  · exact .pure _
  · exact printValue_made pipe value

private theorem blockCall_made (pipe : Pipe) : Made host (blockCall host pipe dot) := by
  apply Made.bind (.setPlace _ _)
  intro _
  split
  · exact .fail rfl
  · split
    · exact .pure _
    · exact .bind (Command.evalAll_made _ _) fun _ ↦ .pure _

private theorem argBlock_made (pipe : Pipe) (body : List Node) :
    Made host (argBlock host pipe body dot) := by
  apply Made.inScope
  apply Made.bind (blockCall_made pipe)
  intro (call, dot)
  apply Made.bind (.collect body dot)
  intro bytes
  have args : ∀ m ∈ Operand.arguments host dot call.operands.tail ++
      [Pure.pure (.text (Text.decodeText bytes))], Made host m := by
    refine List.forall_mem_append.mpr ⟨Operand.arguments_made _, ?_⟩
    exact List.forall_mem_singleton.mpr (.pure _)
  exact .bind (call.evalWith_made args) fun value ↦ printResult_made pipe value

private theorem callbackBlock_made (pipe : Pipe) (body : List Node) :
    Made host (callbackBlock host pipe body dot) := by
  apply Made.inScope
  apply Made.bind (blockCall_made pipe)
  intro (call, dot)
  exact .bind (.callback call body dot) fun value ↦ printResult_made pipe value

private theorem node_made (n : Node) : Made host (node host dot n) := by
  cases n with
  | text => exact .text _
  | action span pipe =>
    apply Made.bind pipe.eval_made
    intro value
    split
    · exact printValue_made pipe value
    · exact .pure ()
  | branch kind span pipe body otherwise =>
    cases kind with
    | loop => exact loop_made pipe body otherwise
    | cond | scope => exact choose_made _ pipe body otherwise
  | template span name pipe => exact callTemplate_made span name pipe
  | list => exact .nodes _ _
  | wrap => exact .wrap ..
  | block kind span pipe body =>
    cases kind with
    | arg => exact argBlock_made pipe body
    | callback => exact callbackBlock_made pipe body

/-- A walk of nodes is made of the walks of each. -/
theorem each_made (nodes : List Node) : Made host (each host dot nodes) := by
  induction nodes with
  | nil => exact .pure ()
  | cons n rest ih =>
    apply Made.bind (.setPlace _ _)
    intro _
    exact .bind (.located (node_made n)) fun _ ↦ ih

/-- The call of the function of a callback block, with the block open. -/
theorem blockCall_evalWith_made (handle : Nat) (call : Command) :
    Made host (call.evalWith host dot
      ([return dot, return .block handle] ++ Operand.arguments host dot call.operands.tail)) := by
  apply Command.evalWith_made
  refine List.forall_mem_append.mpr ⟨?_, Operand.arguments_made _⟩
  exact List.forall_mem_cons.mpr ⟨.pure _, List.forall_mem_singleton.mpr (.pure _)⟩

end Walk

end TextTemplate
