import TextTemplate.Proofs.Before

/-!
# What nested renders see

A template that is rendered by a running template has variables of its own, and sees those of the
renders around it as they were when they asked for the render inside. It can neither assign them
nor leave anything in them: the render that asked goes on with the variables that it had.
-/

set_option autoImplicit false

namespace TextTemplate

variable {host : Host}

/-! ### Names and values -/

namespace Bindings

variable {vars : Bindings} {name : String} {v : Value}

/-- Later bindings shadow those before them. -/
theorem lookup_append (vars more : Bindings) (name : String) :
    Bindings.lookup (vars ++ more) name = (more.lookup name).or (vars.lookup name) := by
  rw [lookup, lookup, lookup, List.reverse_append, List.find?_append, Option.map_or]

private theorem assign?_eq_none (h : vars.lookup name = none) : vars.assign? name v = none := by
  induction vars with
  | nil => rfl
  | cons b rest ih =>
    rw [lookup_cons, Option.or_eq_none_iff] at h
    have hb : (b.1 == name) = false := by simpa using h.2
    simp [assign?, ih h.1, hb]

end Bindings

/-- A name means the innermost variable of the render itself, if there is one. -/
theorem State.lookup_eq (s : State) (name : String) :
    s.lookup name = (s.vars.lookup name).or (s.globals.lookup name) :=
  Bindings.lookup_append ..

/-- What a render has no variable for, it cannot assign, even if it sees a variable of the name. -/
theorem Walk.assign_undefined {s : State} {name : String} (value : Value)
    (h : s.vars.lookup name = none) :
    Walk.assign name value s = .done (.error (.of (.undefinedVariable name)), s) := by
  rw [assign, read_bind, Bindings.assign?_eq_none h]
  rfl

/-! ### One nested render -/

/-- A render that a running template asks for: the name of the template, the data, and the state of
the caller. -/
structure NestedCall where
  name : String
  data : Value
  caller : State

/-- What the caller does to have the template rendered. -/
def NestedCall.run (c : NestedCall) : Run (Outcome ByteArray × State) :=
  Walk.renderNested c.name c.data c.caller

namespace Walk

variable (s : State) (template : Template) (data : Value)

/-- A nested render has the variables of its caller as globals, behind those it had. -/
@[simp] theorem globals_nestedState :
    (nestedState s template data).globals = s.globals ++ s.vars := by
  simp only [nestedState]
  split
  · rfl
  · rfl

/-- A nested render begins with its data as the only variable. -/
@[simp] theorem vars_nestedState : (nestedState s template data).vars =
    [(State.rootName, (nestedState s template data).data)] := by
  simp only [nestedState]
  split
  · rfl
  · rfl

end Walk

/-- A nested render sees what its caller sees and cannot change it. It begins with the dot as its
only variable, all other names mean what they mean to the caller, and however it ends, the caller
goes on with nothing changed but the resources that all renders share. -/
structure NestedCall.Isolated (host : Host) (c : NestedCall) : Prop where
  begins : ∀ task u, c.run.Asks host task u →
    u.vars = [(State.rootName, u.data)] ∧
      ∀ name, name ≠ State.rootName → u.lookup name = c.caller.lookup name
  ends : ∀ o v, c.run.Ends host (o, v) → v = { c.caller with resources := v.resources }

/-- What a nested render asks its host's loop for is the walk of the template from the state at the
start of the render. -/
theorem NestedCall.of_asks {c : NestedCall} {task : Task} {u : State}
    (h : c.run.Asks host task u) :
    ∃ template tree, c.caller.callee c.name = .ok template ∧ template.tree = some tree ∧
      u = Walk.nestedState c.caller template c.data ∧ task = .render tree.root u.data := by
  rw [run, Walk.renderNested] at h
  split at h
  · cases h
  · next template hc =>
    dsimp only at h
    split at h
    · cases h
    · next tree ht =>
      cases h with
      | now => exact ⟨template, tree, hc, ht, rfl, rfl⟩
      | later _ h =>
        dsimp only at h
        split at h
        · cases h
        · cases h
        · cases h

/-- Every nested render is isolated from its caller. -/
theorem NestedCall.isolated (c : NestedCall) : c.Isolated host where
  begins task u h := by
    obtain ⟨template, tree, -, -, rfl, -⟩ := NestedCall.of_asks h
    refine ⟨Walk.vars_nestedState .., ?_⟩
    intro name hn
    have hroot : Bindings.lookup [(State.rootName, (Walk.nestedState c.caller template
        c.data).data)] name = none := by
      simp [Bindings.lookup, hn.symm]
    rw [State.lookup_eq, Walk.vars_nestedState, hroot, Option.none_or, Walk.globals_nestedState,
      State.lookup]
  ends o v h := by
    rw [run, Walk.renderNested] at h
    split at h
    · cases h
      rfl
    · dsimp only at h
      split at h
      · cases h
        rfl
      · cases h with
        | ask _ h =>
          dsimp only at h
          split at h
          · cases h
            rfl
          · cases h
            rfl
          · cases h
            rfl

/-! ### Chains of nested renders -/

/-- The calls of the nested renders that are open at a moment, innermost first. Each was made by the
task below the render, at the level at which that task began. -/
inductive NestedCalls (host : Host) : List Request → List NestedCall → Prop where
  | start {r : Request} : NestedCalls host [r] []
  | inside {r parent : Request} {stack : List Request} {calls : List NestedCall} :
      NestedCalls host (parent :: stack) calls → r.1.isRender = false →
        NestedCalls host (r :: parent :: stack) calls
  | render {r parent : Request} {stack : List Request} {calls : List NestedCall} {c : NestedCall} :
      NestedCalls host (parent :: stack) calls → Level host parent.opened c.caller →
        c.run.Asks host r.1 r.2 → NestedCalls host (r :: parent :: stack) (c :: calls)

private theorem Request.globals_opened (r : Request) : r.opened.globals = r.2.globals := by
  obtain ⟨task, s⟩ := r
  cases task <;> rfl

private theorem State.Requests.nestedCall {calls : Value → List Value → Prop} {s u : State}
    {task : Task} (h : s.Requests host calls task u) (hr : task.isRender = true) :
    ∃ c : NestedCall, Level host s c.caller ∧ c.run.Asks host task u := by
  cases h with
  | call | invoke | capture | before => cases hr
  | @render name template tree data v hc ht hv =>
    refine ⟨⟨name, data, v⟩, hv, ?_⟩
    apply Run.Asks.first
    rw [NestedCall.run, Walk.renderNested, (hv.callee name).trans hc]
    dsimp only
    rw [ht]

/-- What begins another render is such a call, from the level of the task that asks. -/
theorem Run.Asks.nestedCall {r : Request} {task : Task} {u : State}
    (h : (Walk.start host r.1 r.2).Asks host task u) (hr : task.isRender = true) :
    ∃ c : NestedCall, Level host r.opened c.caller ∧ c.run.Asks host task u := by
  obtain ⟨t, s⟩ := r
  have ha := (Walk.start_meets t s).asked Walk.start_meets h
  cases t with
  | walk nodes dot | enter nodes dot | render nodes dot =>
    obtain ⟨n, -, hn⟩ := ha
    cases hn with
    | eval hs => exact hs.nestedCall hr
    | part | content | argument | enter | callback => cases hr
  | call f args => exact State.Requests.nestedCall ha hr
  | invoke handle dot args =>
    obtain ⟨b, -, rfl, -⟩ := ha
    cases hr
  | callback call body dot => exact State.Requests.nestedCall ha hr

/-- Within a render, all tasks see the same variables of the renders around it. -/
theorem Run.Asks.globals_eq {r : Request} {task : Task} {u : State}
    (h : (Walk.start host r.1 r.2).Asks host task u) (hr : task.isRender = false) :
    u.globals = r.2.globals := by
  cases he : task.isEnter with
  | false => exact (h.sameFrame hr he).globals
  | true =>
    obtain ⟨t, s⟩ := r
    have ha := (Walk.start_meets t s).asked Walk.start_meets h
    have evaluated {s : State} (hs : s.Requests host anyCall task u) : u.globals = s.globals :=
      (hs.sameFrame hr).globals
    cases t with
    | walk nodes dot | enter nodes dot | render nodes dot =>
      obtain ⟨n, -, hn⟩ := ha
      cases hn with
      | eval hs => exact evaluated hs
      | part | content | argument | callback => cases he
      | enter _ _ hu => exact hu.globals
    | call f args => exact evaluated ha
    | invoke handle dot args =>
      obtain ⟨b, -, rfl, -⟩ := ha
      cases he
    | callback call body dot => exact evaluated (s := Walk.openBlock body s) ha

variable {start : Request}

private theorem Moment.exists_nestedCalls {stack : List Request} (h : Moment host start stack) :
    ∃ calls, NestedCalls host stack calls := by
  induction h with
  | start => exact ⟨[], .start⟩
  | @ask task s stack parent _ ha ih =>
    obtain ⟨calls, hcalls⟩ := ih
    cases hr : task.isRender with
    | false => exact ⟨calls, .inside hcalls hr⟩
    | true =>
      obtain ⟨c, hc, hs⟩ := ha.nestedCall hr
      exact ⟨c :: calls, .render hcalls hc hs⟩

/-- What a render sees of the renders around it: the variables of each of its callers, the nearest
one first, and then those that the outermost render began with. -/
theorem NestedCalls.lookup_globals {request : Request} {stack : List Request}
    {calls : List NestedCall} (hc : NestedCalls host (request :: stack) calls)
    (h : Moment host start (request :: stack)) (name : String) :
    request.2.globals.lookup name =
      (calls.findSome? fun c ↦ c.caller.vars.lookup name).or (start.2.globals.lookup name) := by
  generalize hl : request :: stack = all at hc h
  induction hc generalizing request stack with
  | start =>
    cases hl
    cases h with
    | start => rfl
  | @inside r parent rest calls _ hr ih =>
    cases hl
    rw [h.asked.globals_eq hr]
    exact ih rfl h.outer
  | @render r parent rest calls c _ hlevel hrun ih =>
    cases hl
    obtain ⟨template, tree, -, -, hu, -⟩ := NestedCall.of_asks hrun
    have hglobals : c.caller.globals = parent.2.globals :=
      hlevel.globals.trans parent.globals_opened
    rw [hu, Walk.globals_nestedState, Bindings.lookup_append, hglobals, ih rfl h.outer,
      List.findSome?_cons]
    cases c.caller.vars.lookup name with
    | some v => rfl
    | none => rfl

/-- Nested renders see the variables of their callers and cannot change them, at every moment of any
run. A name means the innermost variable of the running template, then that of the nearest caller
that had one when it asked for the render, and then what the outermost render began with; and it
means the same after whatever the running task does, as far as the running template has no variable
of the name. Such a name cannot be assigned either. Each of the renders begins with what its caller
sees, and leaves the caller's variables as they were. -/
theorem nested_isolated {request : Request} {stack : List Request}
    (h : Moment host start (request :: stack)) :
    ∃ calls, NestedCalls host (request :: stack) calls ∧
      (∀ name, request.2.lookup name = (request.2.vars.lookup name).or
        ((calls.findSome? fun c ↦ c.caller.vars.lookup name).or (start.2.globals.lookup name))) ∧
      (∀ o v, (Walk.start host request.1 request.2).Ends host (o, v) → o.Returned →
        v.globals = request.2.globals) ∧
      (∀ name value, request.2.vars.lookup name = none →
        Walk.assign name value request.2 =
          .done (.error (.of (.undefinedVariable name)), request.2)) ∧
      ∀ c ∈ calls, c.Isolated host := by
  obtain ⟨calls, hcalls⟩ := h.exists_nestedCalls
  refine ⟨calls, hcalls, ?_, ?_, ?_, fun c _ ↦ c.isolated⟩
  · intro name
    rw [State.lookup_eq, hcalls.lookup_globals h]
  · intro o v hv ho
    exact (Walk.start_level hv ho).globals
  · intro name value hn
    exact Walk.assign_undefined value hn

/-! ### A chain of two renders -/

/-- The node that renders another template. -/
def Node.renderOf (name : String) : Node :=
  .action ⟨0, 0⟩ (.ofForms [[.identifier "template_exec", .text name]])

/-- A template with two variables that renders another one. -/
def outerTree : Tree :=
  .ofNodes "t" [.declare "$x" "outer", .declare "$y" "outer", .renderOf "u"]

/-- The request of the render of the template with two variables. The template that it renders
declares one of them again, and calls a template that sees its caller's variables and renders a
third one. -/
def outerRequest : Request :=
  let called : Tree := ⟨"w", "w", [.renderOf "v"], [], 2, ""⟩
  let set := (((TemplateSet.empty "t").add (.ofNodes "u"
    [.declare "$x" "inner", .template ⟨0, 0⟩ "w" none])).2.add called).2
  let set := (set.add (.ofNodes "v" [.text ⟨0, 0⟩ "body"])).2
  (Executor.root set ⟨"t", some outerTree, .empty⟩ 0).request outerTree .invalid .unlimited
    (.initial .nil)

private theorem outer_reached : ∃ v w u : Request,
    Moment .empty outerRequest [v, w, u, outerRequest] ∧ v.1.isRender = true ∧
      w.1.isEnter = true ∧ u.1.isRender = true ∧ v.2.lookup "$x" = some (.text "inner") ∧
      v.2.lookup "$y" = some (.text "outer") ∧
      v.2.vars.lookup "$x" = none ∧ v.2.vars.lookup "$y" = none :=
  ⟨(_, _), (_, _), (_, _), .ask (.ask (.ask .start (.first rfl)) (.first rfl)) (.first rfl),
    rfl, rfl, rfl, rfl, rfl, rfl, rfl⟩

/-- The template in the middle does not change what the innermost one sees of the outermost one. -/
theorem nested_isolated_outer : ∃ (v w u : Request) (calls : List NestedCall),
    Moment .empty outerRequest [v, w, u, outerRequest] ∧ v.1.isRender = true ∧
      w.1.isEnter = true ∧ u.1.isRender = true ∧
      NestedCalls .empty [v, w, u, outerRequest] calls ∧
      (calls.findSome? fun c ↦ c.caller.vars.lookup "$x") = some (.text "inner") ∧
      (calls.findSome? fun c ↦ c.caller.vars.lookup "$y") = some (.text "outer") ∧
      Walk.assign "$y" .nil v.2 = .done (.error (.of (.undefinedVariable "$y")), v.2) ∧
      ∀ c ∈ calls, c.Isolated .empty := by
  obtain ⟨v, w, u, hm, hv, hw, hu, hx, hy, hvx, hvy⟩ := outer_reached
  obtain ⟨calls, hcalls, hlookup, -, hassign, hisolated⟩ := nested_isolated hm
  have hglobals (name : String) : outerRequest.2.globals.lookup name = none := rfl
  have of_vars {name : String} (hn : v.2.vars.lookup name = none) :
      (calls.findSome? fun c ↦ c.caller.vars.lookup name) = v.2.lookup name := by
    rw [hlookup, hn, hglobals, Option.none_or, Option.or_none]
  exact ⟨v, w, u, calls, hm, hv, hw, hu, hcalls, (of_vars hvx).trans hx, (of_vars hvy).trans hy,
    hassign "$y" .nil hvy, hisolated⟩

end TextTemplate
