import TextTemplate.Builtin.Table
import TextTemplate.Path
import TextTemplate.TemplateSet

/-!
# Executors

An executor runs one template of a set. A child adds functions, options or a policy and leaves
its parent as it is; functions are looked up from the child to the root, which has the built-in
ones. Each executor has local data of its own, a store among the shared resources, unless it is a
copy.
-/

set_option autoImplicit false

namespace TextTemplate

/-- A fixed output, which can end in a failure. -/
structure RawOutput where
  content : ByteArray
  fault : Option String

/-- What runs a template. -/
structure Executor where
  set : TemplateSet
  template : Template
  /-- The functions of this executor alone. -/
  funcs : Scope FuncValue
  parent : Option Executor
  policy : WritePolicy
  options : Options
  /-- The templates that led to this executor from other renders. -/
  superPath : List Step
  /-- An output that takes the place of the template's. -/
  raw : Option RawOutput
  /-- Whether exits and panics stop here. -/
  captures : Bool
  depth : Nat
  /-- The local data, by number. -/
  store : Nat

namespace Executor

/-- The executor of a template with the built-in functions. -/
def root (set : TemplateSet) (template : Template) (store : Nat) : Executor where
  set := set
  template := template
  funcs := Builtin.rootScope
  parent := none
  policy := .inherit
  options := .default
  superPath := []
  raw := none
  captures := true
  depth := 0
  store := store

/-- The executor of a template of a set. -/
def ofSet? (set : TemplateSet) (name : String) (store : Nat) : Option Executor :=
  (set.lookup name).map fun t => root set t store

/-- The executor of a fixed output. -/
def ofRaw (raw : RawOutput) (store : Nat) : Executor :=
  { root (.empty "raw") (.declared "raw") store with raw := some raw }

/-- An executor below another one, without functions of its own. -/
def child (e : Executor) (store : Nat) : Executor :=
  { e with funcs := .empty, parent := some e, policy := .inherit, store := store }

/-- Adds functions to an executor. Those before one that may not be registered are kept. -/
def addFuncs (e : Executor) (funcs : List (String × FuncValue)) : Executor × Option ScopeError :=
  let (scope, fault) := e.funcs.extend funcs
  ({ e with funcs := scope }, fault)

/-- A child with functions. -/
def withFuncs (e : Executor) (funcs : List (String × FuncValue)) (store : Nat) :
    Except ScopeError Executor :=
  match (e.child store).addFuncs funcs with
  | (c, none) => .ok c
  | (_, some fault) => .error fault

/-- A child whose functions are those of a scope. -/
def withScope (e : Executor) (scope : Scope FuncValue) (store : Nat) : Executor :=
  { e.child store with funcs := scope }

/-- A child with options. -/
def withOptions (e : Executor) (options : Options) (store : Nat) : Executor :=
  { e.child store with options := options }

/-- A child with a policy, or the executor itself if it has that policy. -/
def withPolicy (e : Executor) (policy : WritePolicy) (store : Nat) : Executor :=
  if e.policy = policy then e else { e.child store with policy := policy }

/-- Lets exits and panics through. -/
def withoutCapture (e : Executor) : Executor := { e with captures := false }

/-- Puts a path before that of an executor, instead of one that it had. -/
def withSuper (e : Executor) (path : List Step) : Executor := { e with superPath := path }

/-- An executor and its parents, nearest first. -/
def chain : Executor → List Executor
  | ⟨set, template, funcs, parent, policy, options, superPath, raw, captures, depth, store⟩ =>
    ⟨set, template, funcs, parent, policy, options, superPath, raw, captures, depth, store⟩ ::
      match parent with
      | some p => p.chain
      | none => []
termination_by structural e => e

/-- Whether a failed render writes the text of its error: as the nearest policy says. -/
def writesErrors (e : Executor) : Bool :=
  match e.chain.find? fun x => x.policy ≠ .inherit with
  | some x => x.policy = .force
  | none => false

/-- The function of a name. -/
def findFunc? (e : Executor) (name : String) : Option FuncValue :=
  e.chain.findSome? fun x => x.funcs.get? name

/-- The functions of some names, or all, as one layer. -/
def filterFuncs (e : Executor) (names : List String) : Except ScopeError (Scope FuncValue) :=
  (Scope.merged (e.chain.map fun x => x.funcs)).filter names

/-- The templates that led to this executor's, and that one. -/
def fullPath (e : Executor) : List Step :=
  e.superPath ++ [⟨e.template.name, e.template.sourceName, "", ""⟩]

/-- The executor of a template that is rendered by a running template: it sees the given
variables, is one deeper than its caller, and lets exits and panics through to it. -/
def nested (e : Executor) (template : Template) (globals : List (String × Value)) (depth : Nat)
    (caller : Step) (store : Nat) : Executor :=
  { e with
    template := template
    funcs := .empty
    parent := some e
    policy := .inherit
    options := { e.options with globals := globals }
    superPath := e.superPath ++ [caller]
    raw := none
    captures := false
    depth := depth
    store := store }

/-- What missing keys give. -/
def missingKey (e : Executor) : MissingKey := e.options.missingKey.getD e.set.missingKey

end Executor

end TextTemplate
