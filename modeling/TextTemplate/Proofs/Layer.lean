import TextTemplate.Executor

/-!
# Layers of functions

What templates find through an executor depends on the layers of its chain that hold something, in
their order (`Executor.layers`). A layer that holds nothing is not to be seen, and a layer on top
hides functions at most by others of the same name (`Executor.isSome_findFunc?_of_parent`).
-/

set_option autoImplicit false

namespace TextTemplate

/-- The layers of a scope that hold something. -/
def Scope.filled {α : Type} (s : Scope α) : List (Layer α) := s.layers.filter (!·.isEmpty)

/-- A name means in a scope what it means in the layers that hold something. -/
theorem Scope.get?_eq_filled {α : Type} (s : Scope α) (name : String) :
    s.get? name = s.filled.findSome? fun layer ↦ Layer.get? layer name := by
  rw [get?, filled]
  induction s.layers with
  | nil => rfl
  | cons layer rest ih =>
    cases layer with
    | nil => exact ih
    | cons e layer =>
      rw [List.filter_cons_of_pos rfl, List.findSome?_cons, List.findSome?_cons, ih]

namespace Executor

/-- The layers of an executor and its parents that hold something, nearest first. -/
def layers (e : Executor) : List (Layer FuncValue) := e.chain.flatMap fun x ↦ x.funcs.filled

/-- A function is the one of the nearest layer that has its name. -/
theorem findFunc?_eq_layers (e : Executor) (name : String) :
    e.findFunc? name = e.layers.findSome? fun layer ↦ Layer.get? layer name := by
  rw [findFunc?, layers]
  induction e.chain with
  | nil => rfl
  | cons x rest ih =>
    rw [List.findSome?_cons, List.flatMap_cons, List.findSome?_append, ih, Scope.get?_eq_filled]
    cases x.funcs.filled.findSome? fun layer ↦ Layer.get? layer name with
    | none => rfl
    | some f => rfl

private theorem filterFuncs_eq_layers (e : Executor) (names : List String) :
    e.filterFuncs names = Scope.filter ⟨[] :: e.layers⟩ names := by
  rw [filterFuncs, Scope.merged, List.flatMap_map, layers]
  rfl

section

variable {e p : Executor} (hp : e.parent = some p)
include hp

private theorem chain_of_parent : e.chain = e :: p.chain := by
  cases e
  cases hp
  rfl

private theorem layers_of_parent : e.layers = e.funcs.filled ++ p.layers := by
  rw [layers, chain_of_parent hp, List.flatMap_cons, layers]

private theorem findFunc?_of_parent (name : String) :
    e.findFunc? name = (e.funcs.get? name).or (p.findFunc? name) := by
  rw [findFunc?_eq_layers, layers_of_parent hp, List.findSome?_append, Scope.get?_eq_filled,
    findFunc?_eq_layers]

/-- What is found through an executor is found through those below it, if not another function of
that name. -/
theorem isSome_findFunc?_of_parent {name : String} (h : (p.findFunc? name).isSome = true) :
    (e.findFunc? name).isSome = true := by
  rw [findFunc?_of_parent hp, Option.isSome_or, h, Bool.or_true]

private theorem writesErrors_of_parent (hi : e.policy = .inherit) :
    e.writesErrors = p.writesErrors := by
  rw [writesErrors, chain_of_parent hp, List.find?_cons_of_neg, writesErrors]
  simp [hi]

end

/-- Other functions do not matter for the policy. -/
theorem writesErrors_withScope (e : Executor) (scope : Scope FuncValue) (store : Nat) :
    (e.withScope scope store).writesErrors = e.writesErrors :=
  writesErrors_of_parent rfl rfl

/-- The context of a render by an executor. It has the functions of that executor alone. -/
def context (e : Executor) (data : Value) : Context := .mk e.funcs data e.options.payload

/-- Templates are rendered alike by two executors that differ at most in the context, in the local
data, and in what becomes of an error. -/
structure RendersAs (x y : Executor) : Prop where
  set : y.set = x.set
  template : y.template = x.template
  options : y.options = x.options
  superPath : y.superPath = x.superPath
  raw : y.raw = x.raw
  captures : y.captures = x.captures
  depth : y.depth = x.depth
  layers : y.layers = x.layers

/-- Two executors are alike if renders by them differ at most in the context and in the local
data. -/
structure Alike (x y : Executor) : Prop extends x.RendersAs y where
  writesErrors : y.writesErrors = x.writesErrors

/-- An executor and a child of it are alike. -/
theorem alike_child (e : Executor) (store : Nat) : e.Alike (e.child store) where
  set := rfl
  template := rfl
  options := rfl
  superPath := rfl
  raw := rfl
  captures := rfl
  depth := rfl
  layers := layers_of_parent rfl
  writesErrors := writesErrors_of_parent rfl rfl

namespace RendersAs

variable {x y : Executor} (h : x.RendersAs y)
include h

/-- Executors that render alike find the same functions. -/
theorem findFunc? : y.findFunc? = x.findFunc? := by
  funext name
  rw [findFunc?_eq_layers, findFunc?_eq_layers, h.layers]

/-- Executors that render alike give the same scopes of functions. -/
theorem filterFuncs : y.filterFuncs = x.filterFuncs := by
  funext names
  rw [filterFuncs_eq_layers, filterFuncs_eq_layers, h.layers]

/-- Executors that render alike have been reached on the same path. -/
theorem fullPath : y.fullPath = x.fullPath := by
  rw [Executor.fullPath, Executor.fullPath, h.superPath, h.template]

/-- Executors that render alike do the same about missing keys. -/
theorem missingKey : y.missingKey = x.missingKey := by
  rw [Executor.missingKey, Executor.missingKey, h.options, h.set]

private theorem layers_of_parent {c d : Executor} (hc : c.parent = some x) (hd : d.parent = some y)
    (hf : d.funcs = c.funcs) : d.layers = c.layers := by
  rw [Executor.layers_of_parent hc, Executor.layers_of_parent hd, hf, h.layers]

/-- The children with one scope render alike. -/
theorem withScope (scope : Scope FuncValue) (a b : Nat) :
    (x.withScope scope a).RendersAs (y.withScope scope b) where
  set := h.set
  template := h.template
  options := h.options
  superPath := h.superPath
  raw := h.raw
  captures := h.captures
  depth := h.depth
  layers := h.layers_of_parent rfl rfl rfl

/-- With the same functions in front, executors that render alike have one context. -/
theorem context_withScope (scope : Scope FuncValue) (a b : Nat) (data : Value) :
    (y.withScope scope b).context data = (x.withScope scope a).context data := by
  show Context.mk scope data y.options.payload = .mk scope data x.options.payload
  rw [h.options]

/-- The executors of nested renders, with the same functions, render alike. -/
theorem nested (template : Template) (globals : List (String × Value)) (depth : Nat)
    (caller : Step) (scope : Scope FuncValue) (a b : Nat) :
    ({ x.nested template globals depth caller a with funcs := scope } : Executor).RendersAs
      { y.nested template globals depth caller b with funcs := scope } where
  set := h.set
  template := rfl
  options := by
    show { y.options with globals := globals } = { x.options with globals := globals }
    rw [h.options]
  superPath := by
    show y.superPath ++ [caller] = x.superPath ++ [caller]
    rw [h.superPath]
  raw := rfl
  captures := rfl
  depth := rfl
  layers := h.layers_of_parent rfl rfl rfl

end RendersAs

/-- The children with one scope of executors that are alike are alike. -/
theorem Alike.withScope {x y : Executor} (h : x.Alike y) (scope : Scope FuncValue) (a b : Nat) :
    (x.withScope scope a).Alike (y.withScope scope b) where
  toRendersAs := h.toRendersAs.withScope scope a b
  writesErrors := by rw [writesErrors_withScope, writesErrors_withScope, h.writesErrors]

end Executor

end TextTemplate
