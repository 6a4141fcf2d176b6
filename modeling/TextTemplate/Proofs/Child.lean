import TextTemplate.Execute
import TextTemplate.Proofs.Twin

/-!
# Children of executors

A child that adds no function runs templates as the executor does above it, but with local data of
its own, if the host does alike in the contexts of the two (`Executor.execute_child`). It need not,
since the context of a render has the functions of its executor alone, and none of those that the
executor has from its parents.
-/

set_option autoImplicit false

namespace TextTemplate

variable {host : Host} {l : Link}

/-- Results that are related, if there are any, are changed to results that are related. -/
theorem rel_map {α β γ δ : Type} {R : α → β → Prop} {S : γ → δ → Prop} {f : α → γ}
    {g : β → δ} (hfg : ∀ a b, R a b → S (f a) (g b)) {x : Option α} {y : Option β}
    (h : Option.Rel R x y) : Option.Rel S (x.map f) (y.map g) := by
  cases h with
  | none => exact .none
  | some h => exact .some (hfg _ _ h)

/-- Results that are related in one way are related in a weaker one. -/
theorem rel_mono {α β : Type} {R S : α → β → Prop} (h : ∀ a b, R a b → S a b) {x : Option α}
    {y : Option β} (hxy : Option.Rel R x y) : Option.Rel S x y := by
  cases hxy with
  | none => exact .none
  | some hxy => exact .some (h _ _ hxy)

/-- Two renders agree: they have the same verdict and the same output, and leave the same resources
apart from stores, of which one of each has the same content. -/
structure Rendered.Agrees (a b : Nat) (x y : Rendered) : Prop where
  verdict : x.verdict = y.verdict
  writer : x.writer = y.writer
  channels : x.resources.channels = y.resources.channels
  nextNumber : x.resources.nextNumber = y.resources.nextNumber
  hostState : x.resources.hostState = y.resources.hostState
  store : x.resources.store a = y.resources.store b

/-- Two renders have the same verdict and the same output, and leave linked resources. -/
structure Rendered.Twin (l : Link) (x y : Rendered) : Prop where
  verdict : x.verdict = y.verdict
  writer : x.writer = y.writer
  resources : x.resources.Linked l y.resources

private theorem Rendered.Twin.agrees {x y : Rendered} (h : x.Twin l y) :
    x.Agrees l.left l.right y where
  verdict := h.verdict
  writer := h.writer
  channels := h.resources.channels.symm
  nextNumber := h.resources.nextNumber.symm
  hostState := h.resources.hostState.symm
  store := (h.resources.store l.joins_first).symm

private theorem Rendered.Twin.agrees_rel {x y : Option Rendered} (h : Option.Rel (Twin l) x y) :
    Option.Rel (Agrees l.left l.right) x y :=
  rel_mono (fun _ _ ↦ Twin.agrees) h

/-! ### Executors that are alike -/

namespace Executor

/-- Additional functions are those of a child, unless one of them may not be registered. -/
theorem execute_cons (host : Host) (budget : Nat) (e : Executor) (data : Value)
    (funcs : List (String × FuncValue)) (rest : List (List (String × FuncValue))) (w : Writer)
    (r : Resources) :
    e.execute host budget data (funcs :: rest) w r =
      match Scope.empty.extend (funcs :: rest).flatten with
      | (_, some fault) =>
        some ⟨.error (e.report (.func fault) w).1, (e.report (.func fault) w).2, r.newStore.2⟩
      | (scope, none) =>
        (e.withScope scope r.newStore.1).execute host budget data [] w r.newStore.2 := by
  rw [execute]
  dsimp only [extended, addFuncs, child]
  generalize Scope.empty.extend (funcs :: rest).flatten = x
  obtain ⟨scope, fault⟩ := x
  cases fault with
  | none => rfl
  | some fault => rfl

/-- Templates are walked alike. -/
def Settled (l : Link) (p q : Outcome Unit × Writer × Resources) : Prop :=
  p.1 = q.1 ∧ p.2.1 = q.2.1 ∧ p.2.2.Linked l q.2.2

namespace RendersAs

variable {x y : Executor} {data : Value} {w : Writer} {r r' : Resources} (h : x.RendersAs y)
include h

private theorem settle {p q : Reply} (hpq : Reply.Twin host l p q) :
    Settled l (x.settle p) (y.settle q) := by
  obtain ⟨o, s⟩ := p
  obtain ⟨o', t⟩ := q
  obtain ⟨ho, hst⟩ := hpq
  cases ho
  have hlocate := hst.alike.locate
  obtain ⟨-, -, -, hr⟩ := hst
  refine ⟨?_, rfl, hr⟩
  cases o with
  | ok _ | error _ => rfl
  | panic message =>
    show (if x.captures then .error (s.locate (.ofPanic message)) else .panic message) =
      if y.captures then Outcome.error (State.locate _ (.ofPanic message)) else .panic message
    rw [h.captures, hlocate]

/-- Executors that render alike take as many steps and settle in related ways. -/
theorem render (hj : l.Joins x.store y.store)
    (hc : host.Confuses (x.context data) (y.context data)) (hr : r.Linked l r') (budget : Nat) :
    Option.Rel (Settled l) (x.render host budget data w r) (y.render host budget data w r') := by
  rw [Executor.render, Executor.render, h.raw, h.template]
  cases x.raw with
  | some raw => exact .some ⟨rfl, rfl, hr⟩
  | none =>
    cases x.template.tree with
    | none => exact .some ⟨rfl, rfl, hr⟩
    | some tree =>
      exact rel_map (fun _ _ hreply ↦ h.settle hreply)
        (Walk.run_twins budget tree.root data (.initial h hj hc hr w))

end RendersAs

namespace Alike

variable {x y : Executor} {data : Value} {w : Writer} {r r' : Resources}

private theorem report (h : x.Alike y) : y.report = x.report := by
  funext error w
  rw [Executor.report, Executor.report, h.writesErrors]

private theorem conclude (h : x.Alike y) : y.conclude = x.conclude := by
  funext error w
  rw [Executor.conclude, Executor.conclude, h.captures, h.template, h.fullPath, h.report]

variable (h : x.Alike y) (hj : l.Joins x.store y.store)
  (hc : host.Confuses (x.context data) (y.context data)) (hr : r.Linked l r') (budget : Nat)
include h hj hc hr

private theorem finish :
    Option.Rel (Rendered.Twin l) (x.finish host budget data w r)
      (y.finish host budget data w r') := by
  apply rel_map _ (h.render hj hc hr budget)
  rintro ⟨o, v, u⟩ ⟨o', v', u'⟩ ⟨ho, hv, hu⟩
  cases ho
  cases hv
  cases o with
  | ok _ | panic _ => exact ⟨rfl, rfl, hu⟩
  | error error =>
    dsimp only
    rw [h.conclude]
    exact ⟨rfl, rfl, hu⟩

/-- Renders of data without additional functions do the same. -/
theorem execute_nil :
    Option.Rel (Rendered.Twin l) (x.execute host budget data [] w r)
      (y.execute host budget data [] w r') := by
  rw [Executor.execute, Executor.execute]
  dsimp only [Executor.extended]
  cases data.dataFuncs? with
  | none => exact h.finish hj hc hr budget
  | some p =>
    obtain ⟨inner, funcs⟩ := p
    obtain ⟨hj', hr'⟩ := hr.newStore
    refine (h.withScope funcs _ _).finish hj' ?_ hr' budget
    rw [h.context_withScope]
    exact host.confuses_self _

/-- Renders do the same, with whatever additional functions. -/
theorem execute (extra : List (List (String × FuncValue))) :
    Option.Rel (Rendered.Twin l) (x.execute host budget data extra w r)
      (y.execute host budget data extra w r') := by
  cases extra with
  | nil => exact h.execute_nil hj hc hr budget
  | cons funcs rest =>
    obtain ⟨hj', hr'⟩ := hr.newStore
    rw [execute_cons, execute_cons]
    split
    · rw [h.report]
      exact .some ⟨rfl, rfl, hr'⟩
    · refine (h.withScope _ _ _).execute_nil hj' ?_ hr' budget
      rw [h.context_withScope]
      exact host.confuses_self _

end Alike

end Executor

/-! ### A function that calls another one -/

/-- A host with a constant function, and with factories of functions that call it by its name. -/
def Host.calling : Host where
  plain
    | 0, _, _ => .done (.single (.text "G"))
    | _, some context, _ => .callNamed context "g" [] fun r ↦ .ofExcept (r.map .single)
    | _, none, _ => .fail .needsRender
  stateful _ _ _ := .fail .needsRender
  build _ context := .done (.mk ⟨.exactly 0, .single⟩ false (.host 1) [] (some context) none)

/-- The executor of a template that prints what a function gives, with functions of its own. -/
def Executor.printing (funcs : List (String × FuncValue)) : Executor :=
  let tree : Tree := .ofNodes "t" [.action ⟨0, 0⟩ (.ofForms [[.identifier "f"]])]
  (root (.empty "t") ⟨"t", some tree, .empty⟩ 0).withScope ⟨[funcs]⟩ 1

/-- The executor of the template, with a function that calls another one by its name. -/
def Executor.caller : Executor :=
  .printing [("f", .contextBound 0),
    ("g", .direct (.mk ⟨.exactly 0, .single⟩ false (.host 0) [] none none))]

/-- Resources with a number of stores that hold nothing. -/
def Resources.ofStores (count : Nat) : Resources := ⟨#[], Array.replicate count .empty, 0, .nil⟩

deriving instance DecidableEq for Verdict

/-- How a render ended, and what it has written. -/
def Rendered.result (x : Rendered) : Verdict × ByteArray := (x.verdict, x.writer.written)

/-- Why a render failed, if it was an error of evaluation. -/
def Rendered.cause? (x : Rendered) : Option Cause :=
  match x.verdict with
  | .error (.exec e) => some e.cause.cause
  | _ => none

/-- A function that a factory builds calls another one of its executor. In a child, and with
additional functions that are none, it does not find that function, which the template finds. -/
theorem not_called_below : ∃ budget,
    (Executor.caller.execute .calling budget .invalid [] .unlimited (.ofStores 3)).map
        Rendered.result = some (.ok, "G".toUTF8) ∧
      ((Executor.caller.child 2).execute .calling budget .invalid [] .unlimited (.ofStores 3)).map
        Rendered.cause? = some (some (.callFailed "f" (Cause.undefinedFunction "g").message)) ∧
      (Executor.caller.execute .calling budget .invalid [[]] .unlimited (.ofStores 3)).map
        Rendered.cause? = some (some (.callFailed "f" (Cause.undefinedFunction "g").message)) ∧
      ((Executor.caller.child 2).findFunc? "g").isSome = true :=
  ⟨4, by decide +kernel, by decide +kernel, by decide +kernel, rfl⟩

/-! ### Children in general -/

namespace Executor

variable {e : Executor} {data : Value} {r : Resources} {b : Nat}

/-- A child without functions of its own runs a template as the executor does with the local data of
the child, in as many steps, with whatever additional functions, if the host does alike in the
contexts of both; and so does the executor with additional functions that are none. What a template
finds through an executor, it finds through every child, if not another function of that name. -/
theorem execute_child
    (hc : host.Confuses (e.context data) ((e.child b).context data))
    (he : e.store < r.stores.size) (hb : b < r.stores.size) (budget : Nat) (w : Writer) :
    (∀ extra, Option.Rel (Rendered.Agrees e.store b)
        (e.execute host budget data extra w (r.updateStore e.store fun _ ↦ r.store b))
        ((e.child b).execute host budget data extra w r)) ∧
      Option.Rel (Rendered.Agrees e.store r.newStore.1)
        (e.execute host budget data [] w (r.updateStore e.store fun _ ↦ .empty))
        (e.execute host budget data [[]] w r) ∧
      ∀ scope name, (e.findFunc? name).isSome = true →
        ((e.withScope scope b).findFunc? name).isSome = true := by
  refine ⟨fun extra ↦ ?_, ?_, fun scope name h ↦ isSome_findFunc?_of_parent rfl h⟩
  · have hlink := Resources.linked_updateStore he hb
    exact Rendered.Twin.agrees_rel
      ((e.alike_child b).execute (Link.joins_first _) hc hlink budget extra)
  · have hlink := Resources.linked_newStore he
    have hnone : e.execute host budget data [[]] w r =
        (e.child r.newStore.1).execute host budget data [] w r.newStore.2 :=
      execute_cons ..
    rw [hnone]
    exact Rendered.Twin.agrees_rel
      ((e.alike_child r.newStore.1).execute (Link.joins_first _) hc hlink budget [])

end Executor

/-- A host with factories of functions that give the data of the render. -/
def Host.echoing : Host where
  plain _ _ args := .done (.single (args.headD .invalid))
  stateful _ _ _ := .fail .needsRender
  build _ context := .done (.mk ⟨.exactly 0, .single⟩ false (.host 0) [context.data] none none)

/-- The executor of the template, with a function that gives the data. -/
def Executor.echo : Executor := .printing [("f", .contextBound 0)]

/-- A function that a factory builds from the data gives in a child what it gives above it. -/
theorem Executor.execute_child_echo :
    Option.Rel (Rendered.Agrees 1 2)
      (echo.execute .echoing 4 (.text "D") [] .unlimited
        ((Resources.ofStores 3).updateStore 1 fun _ ↦ (Resources.ofStores 3).store 2))
      ((echo.child 2).execute .echoing 4 (.text "D") [] .unlimited (.ofStores 3)) ∧
      ((echo.child 2).execute .echoing 4 (.text "D") [] .unlimited (.ofStores 3)).map
        Rendered.result = some (.ok, "D".toUTF8) := by
  have hc : Host.echoing.Confuses (echo.context (.text "D")) ((echo.child 2).context (.text "D")) :=
    ⟨fun _ _ _ ↦ trivial, fun _ ↦ rfl⟩
  have h := (execute_child (e := echo) (b := 2) (r := .ofStores 3) hc (by decide) (by decide) 4
    .unlimited).1 []
  exact ⟨h, by decide +kernel⟩

end TextTemplate
