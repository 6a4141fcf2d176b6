import TextTemplate.Proofs.Scope

/-!
# The nodes before the content of a wrap

The nodes before the content of a wrap are walked when the first content arrives, from wherever in
the body that is. Only the dot is that of the wrap: the variables, the functions and the template
are those that are current. They are those of the wrap as long as no other template has been
entered in between, and its variables mean what they meant as long as none of their names has been
declared again.
-/

set_option autoImplicit false

namespace TextTemplate

variable {host : Host} {start : Request}

/-! ### What names mean -/

/-- The place of the last variable of a name. -/
def Bindings.placeOf? (name : String) : Bindings → Option Nat
  | [] => none
  | b :: rest =>
    match placeOf? name rest with
    | some i => some (i + 1)
    | none => if b.1 == name then some 0 else none

namespace Bindings

variable {name : String} {vars more : Bindings} {i : Nat}

private theorem placeOf?_eq_none_iff : placeOf? name vars = none ↔ name ∉ vars.names := by
  induction vars with
  | nil => simp [placeOf?, names]
  | cons b rest ih =>
    have hnames : names (b :: rest) = b.1 :: names rest := rfl
    rw [placeOf?, hnames, List.mem_cons, not_or, ← ih]
    cases placeOf? name rest with
    | none => simp [eq_comm (a := name) (b := b.1)]
    | some i => simp

/-- The place of a name is one of the bindings. -/
theorem placeOf?_lt (h : placeOf? name vars = some i) : i < vars.length := by
  induction vars generalizing i with
  | nil => cases h
  | cons b rest ih =>
    rw [placeOf?] at h
    rw [List.length_cons]
    cases hr : placeOf? name rest with
    | some j =>
      rw [hr] at h
      cases h
      exact Nat.succ_lt_succ (ih hr)
    | none =>
      rw [hr] at h
      simp only [Option.ite_none_right_eq_some, Option.some.injEq] at h
      omega

/-- The last variable of a name is among the later ones if they have the name. -/
theorem placeOf?_append (name : String) (vars more : Bindings) :
    placeOf? name (vars ++ more) =
      ((placeOf? name more).map (vars.length + ·)).or (placeOf? name vars) := by
  induction vars with
  | nil => simp [placeOf?]
  | cons b rest ih =>
    rw [List.cons_append, placeOf?, ih, placeOf?, List.length_cons]
    cases placeOf? name more with
    | some i => simp [Nat.add_right_comm]
    | none => simp

/-- The place of a name depends on the names alone. -/
theorem placeOf?_congr (h : more.names = vars.names) :
    placeOf? name more = placeOf? name vars := by
  induction vars generalizing more with
  | nil => rw [List.map_eq_nil_iff.mp h]
  | cons b rest ih =>
    obtain ⟨b', rest', rfl, hb, hrest⟩ := List.map_eq_cons_iff.mp h
    rw [placeOf?, placeOf?, ih hrest, hb]

/-- The first binding counts for a name if no later one has it. -/
theorem lookup_cons (b : String × Value) (rest : Bindings) (name : String) :
    Bindings.lookup (b :: rest) name =
      (Bindings.lookup rest name).or (if b.1 == name then some b.2 else none) := by
  rw [lookup, lookup, List.reverse_cons, List.find?_append, Option.map_or, List.find?_cons]
  cases b.1 == name with
  | true | false => rfl

/-- A name means the value of the variable at its place. -/
theorem lookup_eq (vars : Bindings) (name : String) :
    vars.lookup name = (placeOf? name vars).bind fun i ↦ vars[i]?.map Prod.snd := by
  induction vars with
  | nil => rfl
  | cons b rest ih =>
    rw [lookup_cons, ih, placeOf?]
    cases hp : placeOf? name rest with
    | some i => simp [List.getElem?_eq_getElem (placeOf?_lt hp)]
    | none =>
      cases hb : b.1 == name with
      | true | false => simp

end Bindings

/-- The number of the variable that a name means, among those of the render and then those of the
template. -/
def State.binding? (s : State) (name : String) : Option Nat :=
  Bindings.placeOf? name (s.globals ++ s.vars)

/-! ### Frames -/

/-- A state in the frame of another one: in the same template, with the same functions, and with
the variables of the other state and maybe more. -/
structure SameFrame (s u : State) : Prop where
  exec : u.exec = s.exec
  template : u.template = s.template
  globals : u.globals = s.globals
  data : u.data = s.data
  overrides : u.overrides = s.overrides
  names : s.vars.names <+: u.vars.names

namespace SameFrame

variable {s t u : State}

private theorem trans (h : SameFrame s t) (k : SameFrame t u) : SameFrame s u where
  exec := k.exec.trans h.exec
  template := k.template.trans h.template
  globals := k.globals.trans h.globals
  data := k.data.trans h.data
  overrides := k.overrides.trans h.overrides
  names := h.names.trans k.names

/-- In one frame a function name means one function. -/
theorem findFunc?_eq (h : SameFrame s u) (name : String) : u.findFunc? name = s.findFunc? name := by
  simp only [State.findFunc?, h.exec, h.template, h.data, h.overrides]

/-- In one frame a place has one site. -/
theorem site_eq (h : SameFrame s u) (place : Option (Span × Subject)) :
    State.site { u with place := place } = State.site { s with place := place } := by
  simp only [State.site, State.whereabouts, h.exec, h.template]

/-- In one frame the variables of a state mean what they meant if none of their names has been
declared again. -/
theorem binding?_eq_iff (h : SameFrame s u) :
    (∀ name i, s.binding? name = some i → u.binding? name = some i) ↔
      ∀ name ∈ Bindings.names (u.vars.drop s.vars.length), s.binding? name = none := by
  have hold (name : String) :
      Bindings.placeOf? name (s.globals ++ u.vars.take s.vars.length) = s.binding? name := by
    apply Bindings.placeOf?_congr
    have hnames := List.prefix_iff_eq_take.mp h.names
    rw [Bindings.length_names] at hnames
    rw [Bindings.names_append, Bindings.names_append, Bindings.names_take, ← hnames]
  have hlength : (s.globals ++ u.vars.take s.vars.length).length =
      (s.globals ++ s.vars).length := by
    have hle := h.names.length_le
    rw [Bindings.length_names, Bindings.length_names] at hle
    rw [List.length_append, List.length_append, List.length_take, Nat.min_eq_left hle]
  have hnew (name : String) : u.binding? name =
      ((Bindings.placeOf? name (u.vars.drop s.vars.length)).map
        ((s.globals ++ s.vars).length + ·)).or (s.binding? name) := by
    rw [← hold, ← hlength, ← Bindings.placeOf?_append, List.append_assoc, List.take_append_drop,
      State.binding?, h.globals]
  constructor
  · intro hkept name hmem
    cases hs : s.binding? name with
    | none => rfl
    | some i =>
      have hi := Bindings.placeOf?_lt hs
      have hu := hkept name i hs
      cases hp : Bindings.placeOf? name (u.vars.drop s.vars.length) with
      | none => exact absurd hmem (Bindings.placeOf?_eq_none_iff.mp hp)
      | some j =>
        rw [hnew, hp] at hu
        simp only [Option.map_some, Option.some_or, Option.some.injEq] at hu
        omega
  · intro hnone name i hs
    have hmem : name ∉ Bindings.names (u.vars.drop s.vars.length) := fun hmem ↦ by
      rw [hnone name hmem] at hs
      cases hs
    rw [hnew, Bindings.placeOf?_eq_none_iff.mpr hmem, hs]
    rfl

end SameFrame

private theorem Level.sameFrame {s u : State} (h : Level host s u) : SameFrame s u where
  exec := h.exec
  template := h.template
  globals := h.globals
  data := (congrArg State.data h.outline :)
  overrides := h.overrides
  names := h.names

private theorem SameFrame.pushSink (s : State) (sink : Sink) : SameFrame s (s.pushSink sink) :=
  ⟨rfl, rfl, rfl, rfl, rfl, List.prefix_rfl⟩

private theorem SameFrame.truncateSinks (s : State) (n : Nat) : SameFrame s (s.truncateSinks n) :=
  ⟨rfl, rfl, rfl, rfl, rfl, List.prefix_rfl⟩

private theorem SameFrame.openBlock (s : State) (body : List Node) :
    SameFrame s (Walk.openBlock body s) where
  exec := rfl
  template := rfl
  globals := rfl
  data := rfl
  overrides := rfl
  names := by
    rw [Walk.openBlock, Bindings.names_append]
    exact List.prefix_append ..

/-- What is asked for within a render is in the frame of the state that asks for it. -/
theorem State.Requests.sameFrame {calls : Value → List Value → Prop} {s u : State} {task : Task}
    (h : s.Requests host calls task u) (hr : task.isRender = false) : SameFrame s u := by
  cases h with
  | call _ hu | invoke hu => exact hu.sameFrame
  | capture hu => exact (SameFrame.pushSink ..).trans hu.sameFrame
  | before _ _ hu => exact (SameFrame.truncateSinks ..).trans hu.sameFrame
  | render => cases hr

private theorem Node.Requests.sameFrame {n : Node} {s u : State} {task : Task}
    (h : n.Requests host s task u) (hr : task.isRender = false) (he : task.isEnter = false) :
    SameFrame s u := by
  cases h with
  | eval h => exact h.sameFrame hr
  | part _ hu | callback hu => exact hu.sameFrame
  | content hu | argument hu => exact (SameFrame.pushSink ..).trans hu.sameFrame
  | enter => cases he

/-- A task is asked for in the frame of the one that asks, unless it begins another render or enters
another template. -/
theorem Run.Asks.sameFrame {r : Request} {task : Task} {u : State}
    (h : (Walk.start host r.1 r.2).Asks host task u) (hr : task.isRender = false)
    (he : task.isEnter = false) : SameFrame r.2 u := by
  obtain ⟨t, s⟩ := r
  have ha := (Walk.start_meets t s).asked Walk.start_meets h
  cases t with
  | walk nodes dot | enter nodes dot | render nodes dot =>
    obtain ⟨n, -, hn⟩ := ha
    exact hn.sameFrame hr he
  | call f args => exact State.Requests.sameFrame ha hr
  | invoke handle dot args =>
    obtain ⟨b, -, rfl, rfl⟩ := ha
    have began : Level host s (s.withArguments b args) := (Level.refl s).withArguments b args
    exact began.sameFrame
  | callback call body dot =>
    exact (SameFrame.openBlock s body).trans (State.Requests.sameFrame ha hr)

/-- As long as no other template is entered, tasks are asked for in one frame. -/
theorem Moment.sameFrame {request r : Request} {above rest : List Request}
    (h : Moment host start (request :: above ++ r :: rest))
    (hn : ∀ q ∈ request :: above, q.1.isRender = false ∧ q.1.isEnter = false) :
    SameFrame r.2 request.2 := by
  induction above generalizing request with
  | nil =>
    have hq := hn request List.mem_cons_self
    exact h.asked.sameFrame hq.1 hq.2
  | cons parent above ih =>
    have hq := hn request List.mem_cons_self
    have hp := ih h.outer fun q hq ↦ hn q (List.mem_cons_of_mem _ hq)
    exact hp.trans (h.asked.sameFrame hq.1 hq.2)

/-! ### Wraps that are open -/

/-- A wrap in a run, with the state in which it begins and the tasks that are open around it. -/
structure OpenWrap where
  strip : Bool
  body : List Node
  before : List Node
  dot : Value
  state : State
  outside : List Request

namespace OpenWrap

/-- The sink of a wrap at its start. -/
def sink (x : OpenWrap) : WrapSink := .fresh x.strip (some x.before) x.dot

/-- The moment at which the body of a wrap begins. -/
def moment (x : OpenWrap) : List Request :=
  (.walk x.body x.dot, x.state.pushSink (.wrap x.sink)) :: x.outside

/-- The sink of a wrap is among the sinks of a state. -/
def IsBelow (x : OpenWrap) (s : State) : Prop :=
  Stack.get? (s.sinks.map Sink.fresh) x.state.sinks.length = some (.wrap x.sink)

variable {x : OpenWrap} {s u : State}

private theorem IsBelow.lt (h : x.IsBelow s) : x.state.sinks.length < s.sinks.length := by
  simpa using Stack.get?_lt h

private theorem IsBelow.level (h : x.IsBelow s) (hu : Level host s u) : x.IsBelow u := by
  rw [IsBelow, hu.sinks]
  exact h

private theorem IsBelow.pushSink (h : x.IsBelow s) (sink : Sink) : x.IsBelow (s.pushSink sink) := by
  rw [IsBelow, State.pushSink, List.map_cons, Stack.get?_cons_lt (Stack.get?_lt h)]
  exact h

/-- Where sinks are dropped, that of a wrap stays unless the wrap itself is dropped. -/
theorem IsBelow.truncateSinks (h : x.IsBelow s) {n : Nat} (hn : x.state.sinks.length < n) :
    x.IsBelow (s.truncateSinks n) := by
  rw [IsBelow, State.truncateSinks, Stack.map_oldest]
  exact Stack.get?_oldest h hn

private theorem IsBelow.eq_of_get? {w : WrapSink} (h : x.IsBelow s)
    (hw : Stack.get? s.sinks x.state.sinks.length = some (.wrap w)) :
    w.before = some x.before ∧ w.dot = x.dot := by
  rw [IsBelow, Stack.get?_map, hw] at h
  simp only [Option.map_some, Sink.fresh, sink, WrapSink.fresh, Option.some.injEq, Sink.wrap.injEq,
    WrapSink.mk.injEq] at h
  exact ⟨h.2.2.2.1, h.2.2.2.2⟩

/-- What is asked for from above a wrap is asked for above the wrap, or it is the nodes before the
content of the wrap or of one around it. -/
theorem IsBelow.requests {calls : Value → List Value → Prop} {task : Task} (h : x.IsBelow s)
    (hs : s.Requests host calls task u) (hr : task.isRender = false) :
    x.IsBelow u ∨ u.sinks.length < x.state.sinks.length ∨
      u.sinks.length = x.state.sinks.length ∧ task = .walk x.before x.dot := by
  cases hs with
  | call _ hu | invoke hu => exact .inl (h.level hu)
  | capture hu => exact .inl ((h.pushSink _).level hu)
  | render => cases hr
  | @before n w nodes _ hw hb hu =>
    have hlen : u.sinks.length = n := by
      rw [hu.length_sinks, State.truncateSinks, Stack.oldest, List.length_drop]
      exact Nat.sub_sub_self (Nat.le_of_lt (Stack.get?_lt hw))
    obtain hn | hn | hn := Nat.lt_trichotomy n x.state.sinks.length
    · exact .inr (.inl (hlen ▸ hn))
    · obtain ⟨hbefore, hdot⟩ := h.eq_of_get? (hn ▸ hw)
      cases hb.symm.trans hbefore
      exact .inr (.inr ⟨hlen.trans hn, by rw [hdot]⟩)
    · exact .inl ((h.truncateSinks hn).level hu)

private theorem IsBelow.asked {r : Request} {task : Task} (h : x.IsBelow r.2)
    (ha : (Walk.start host r.1 r.2).Asks host task u) (hr : task.isRender = false) :
    x.IsBelow u ∨ u.sinks.length < x.state.sinks.length ∨
      u.sinks.length = x.state.sinks.length ∧ task = .walk x.before x.dot := by
  obtain ⟨t, s⟩ := r
  have ha := (Walk.start_meets t s).asked Walk.start_meets ha
  cases t with
  | walk nodes dot | enter nodes dot | render nodes dot =>
    obtain ⟨n, -, hn⟩ := ha
    cases hn with
    | eval hs => exact h.requests hs hr
    | part _ hu | callback hu => exact .inl (h.level hu)
    | content hu | argument hu => exact .inl ((h.pushSink _).level hu)
    | enter _ _ hu =>
      have hx : x.IsBelow _ := h.level hu
      exact .inl hx
  | call f args => exact h.requests ha hr
  | invoke handle dot args =>
    obtain ⟨b, -, rfl, rfl⟩ := ha
    exact .inl h
  | callback call body dot =>
    have h' : x.IsBelow (Walk.openBlock body s) := h
    exact h'.requests ha hr

private theorem isBelow_body (x : OpenWrap) : x.IsBelow (x.state.pushSink (.wrap x.sink)) := by
  rw [IsBelow, State.pushSink, List.map_cons, ← List.length_map (f := Sink.fresh),
    Stack.get?_cons_length]
  rfl

/-- All that is open in the body of a wrap, and writes above the wrap, has the sink of the wrap
below it. -/
theorem isBelow {request : Request} {above : List Request}
    (h : Moment host start (request :: above ++ x.moment))
    (hn : ∀ q ∈ request :: above, q.1.isRender = false ∧
      x.state.sinks.length < q.2.sinks.length) : x.IsBelow request.2 := by
  induction above generalizing request with
  | nil =>
    have hq := hn request List.mem_cons_self
    obtain hx | hx | ⟨hx, -⟩ := x.isBelow_body.asked h.asked hq.1
    · exact hx
    · omega
    · omega
  | cons parent above ih =>
    have hq := hn request List.mem_cons_self
    have hp := ih h.outer fun q hq ↦ hn q (List.mem_cons_of_mem _ hq)
    obtain hx | hx | ⟨hx, -⟩ := hp.asked h.asked hq.1
    · exact hx
    · omega
    · omega

/-- A task begins in the body of a wrap, the first one with the sinks around the wrap as its
output. -/
structure Begins (x : OpenWrap) (above : List Request) (request : Request) : Prop where
  inside : ∀ q ∈ request :: above, q.1.isRender = false
  above : ∀ q ∈ above, x.state.sinks.length < q.2.sinks.length
  below : request.2.sinks.length = x.state.sinks.length

private theorem Begins.eq_walk {request : Request} {above : List Request}
    (hb : x.Begins above request) (h : Moment host start (request :: above ++ x.moment)) :
    request.1 = .walk x.before x.dot := by
  have hr := hb.inside request List.mem_cons_self
  have of_asked {parent : Request} (hp : x.IsBelow parent.2)
      (ha : (Walk.start host parent.1 parent.2).Asks host request.1 request.2) :
      request.1 = .walk x.before x.dot := by
    have hlen := hb.below
    obtain hx | hx | ⟨-, hx⟩ := hp.asked ha hr
    · have := hx.lt
      omega
    · omega
    · exact hx
  cases above with
  | nil => exact of_asked x.isBelow_body h.asked
  | cons parent above =>
    refine of_asked (x.isBelow h.outer fun q hq ↦ ⟨?_, hb.above q hq⟩) h.asked
    exact hb.inside q (List.mem_cons_of_mem _ hq)

/-- Nodes are walked in the context of a wrap: in its frame, where all names that have a meaning
mean the variables that they mean at the wrap, the functions are those at the wrap, and errors are
located as they are there. -/
structure InContext (x : OpenWrap) (stack : List Request) (u : State) : Prop where
  sameFrame : frame stack = frame x.moment
  bindings : ∀ name i, x.state.binding? name = some i → u.binding? name = some i
  functions : ∀ name, u.findFunc? name = x.state.findFunc? name
  sites : ∀ place, State.site { u with place := place } = State.site { x.state with place := place }

variable {request : Request} {above : List Request}

/-- In the frame of a wrap, only further variables can be out of its context. -/
theorem inContext_iff (h : Moment host start (request :: above ++ x.moment))
    (hb : x.Begins above request) :
    x.InContext (request :: above ++ x.moment) request.2 ↔
      frame (request :: above ++ x.moment) = frame x.moment ∧
        ∀ name ∈ Bindings.names (request.2.vars.drop x.state.vars.length),
          x.state.binding? name = none := by
  have hframe (hf : frame (request :: above ++ x.moment) = frame x.moment) :
      SameFrame x.state request.2 := by
    have henter := (frame_append_iff hb.inside).mp hf
    exact (SameFrame.pushSink ..).trans (h.sameFrame fun q hq ↦ ⟨hb.inside q hq, henter q hq⟩)
  constructor
  · intro hc
    exact ⟨hc.sameFrame, (hframe hc.sameFrame).binding?_eq_iff.mp hc.bindings⟩
  · rintro ⟨hf, hnames⟩
    have hs := hframe hf
    exact ⟨hf, hs.binding?_eq_iff.mpr hnames, hs.findFunc?_eq, hs.site_eq⟩

end OpenWrap

/-! ### Nodes before the content that comes from a called template -/

/-- A template with text alone. -/
def textTree : Tree := .ofNodes "u" [.text ⟨0, 0⟩ "body"]

/-- A template with a variable and a wrap, whose nodes before the content print the variable. -/
def wrapTree (body : List Node) : Tree :=
  .ofNodes "t" [.declare "$x" "X",
    .wrap ⟨0, 0⟩ none body (some [.action ⟨0, 0⟩ (.ofForms [[.variable "$x" []]])]) none none]

/-- The request of the render of the template with a wrap. -/
def wrapRequest (body : List Node) : Request :=
  let set := ((TemplateSet.empty "t").add textTree).2
  (Executor.root set ⟨"t", some (wrapTree body), .empty⟩ 0).request (wrapTree body) .invalid
    .unlimited (.initial .nil)

private theorem called_begins : ∃ (body before : List Node) (dot d : Value) (u u₁ u₂ v : State)
    (e : EvalError),
    Moment .empty (wrapRequest [.template ⟨0, 0⟩ "u" none])
      [(.walk before dot, u₂), (.enter textTree.root d, u₁),
        (.walk body dot, u.pushSink (.wrap (.fresh false (some before) dot))),
        wrapRequest [.template ⟨0, 0⟩ "u" none]] ∧
    u.sinks = [] ∧ u₁.sinks.length = 1 ∧ u₂.sinks = [] ∧
    u.lookup "$x" = some (.text "X") ∧ u.template.name = "t" ∧
    (Walk.start .empty (.walk before dot) u₂).Ends .empty (.error e, v) ∧
    e.cause = .undefinedVariable "$x" ∧ e.site.map Site.template = some "u" :=
  ⟨_, _, _, _, .mk _ _ _ _ _ _ _ _ _ _ _ _ _ _ _, _, _, _, _,
    .ask (.ask (.ask .start (.first rfl)) (.first rfl)) (.first rfl),
    rfl, rfl, rfl, rfl, rfl, .value rfl, rfl, rfl⟩

/-- Where a called template writes the first content, the nodes before it are walked among its
variables, and their errors are located in it. -/
theorem not_inContext_called : ∃ (x : OpenWrap) (request : Request) (above : List Request)
    (v : State) (e : EvalError),
    Moment .empty (wrapRequest [.template ⟨0, 0⟩ "u" none]) (request :: above ++ x.moment) ∧
      x.Begins above request ∧ request.1 = .walk x.before x.dot ∧
      x.state.lookup "$x" = some (.text "X") ∧ x.state.template.name = "t" ∧
      (Walk.start .empty request.1 request.2).Ends .empty (.error e, v) ∧
      e.cause = .undefinedVariable "$x" ∧ e.site.map Site.template = some "u" ∧
      ¬ x.InContext (request :: above ++ x.moment) request.2 := by
  obtain ⟨body, before, dot, d, u, u₁, u₂, v, e, hm, hu, hu₁, hu₂, hx, ht, he, hc, hs⟩ :=
    called_begins
  let x : OpenWrap :=
    ⟨false, body, before, dot, u, [wrapRequest [.template ⟨0, 0⟩ "u" none]]⟩
  have hb : x.Begins [(.enter textTree.root d, u₁)] (.walk before dot, u₂) :=
    ⟨by simp [Task.isRender], by simp [x, hu, hu₁], by simp [x, hu, hu₂]⟩
  refine ⟨x, (.walk before dot, u₂), [(.enter textTree.root d, u₁)], v, e, hm, hb, rfl, hx, ht, he,
    hc, hs, ?_⟩
  intro h
  -- the frame is that of the called template
  have hf := (frame_append_iff hb.inside).mp h.sameFrame (.enter textTree.root d, u₁) (by simp)
  cases hf

/-! ### The context of the nodes before the content -/

/-- The first task in the body of a wrap that has the sinks around the wrap as its output is the
walk of the nodes before the content. It runs in the context of the wrap exactly if no other
template has been entered, and no name with a meaning at the wrap has been declared again, since.
Where other templates have been entered, it runs in the frame of the last one. -/
theorem before_inContext_iff {x : OpenWrap} {request : Request} {above : List Request}
    (used : Moment host start (request :: above ++ x.moment)) (hb : x.Begins above request) :
    request.1 = .walk x.before x.dot ∧
    (x.InContext (request :: above ++ x.moment) request.2 ↔
      frame (request :: above ++ x.moment) = frame x.moment ∧
        ∀ name ∈ Bindings.names (request.2.vars.drop x.state.vars.length),
          x.state.binding? name = none) ∧
    ∀ inner entered outer, request :: above = inner ++ entered :: outer →
      entered.1.isEnter = true → (∀ q ∈ inner, q.1.isEnter = false) →
        SameFrame entered.2 request.2 := by
  have hwalk : request.1 = .walk x.before x.dot := hb.eq_walk used
  refine ⟨hwalk, x.inContext_iff used hb, ?_⟩
  intro inner entered outer hsplit henter hinner
  cases inner with
  | nil =>
    cases hsplit
    rw [hwalk] at henter
    cases henter
  | cons first inner =>
    obtain ⟨rfl, -⟩ := List.cons.inj hsplit
    rw [hsplit, List.append_assoc] at used
    refine used.sameFrame fun q hq ↦ ⟨hb.inside q ?_, hinner q hq⟩
    rw [hsplit]
    exact List.mem_append_left _ hq

private theorem list_begins : ∃ (body before list : List Node) (dot d : Value) (u u₁ u₂ : State),
    Moment .empty (wrapRequest [.list ⟨0, 0⟩ [.text ⟨0, 0⟩ "body"]])
      [(.walk before dot, u₂), (.walk list d, u₁),
        (.walk body dot, u.pushSink (.wrap (.fresh false (some before) dot))),
        wrapRequest [.list ⟨0, 0⟩ [.text ⟨0, 0⟩ "body"]]] ∧
    u.sinks = [] ∧ u₁.sinks.length = 1 ∧ u₂.sinks = [] ∧ u.lookup "$x" = some (.text "X") ∧
    u₂.vars.drop u.vars.length = [] :=
  ⟨_, _, _, _, _, .mk _ _ _ _ _ _ _ _ _ _ _ _ _ _ _, _, _,
    .ask (.ask (.ask .start (.first rfl)) (.first rfl)) (.first rfl), rfl, rfl, rfl, rfl, rfl⟩

/-- Where a list in the body writes the first content, the nodes before it are in context. -/
theorem before_inContext_list : ∃ (x : OpenWrap) (request : Request) (above : List Request),
    Moment .empty (wrapRequest [.list ⟨0, 0⟩ [.text ⟨0, 0⟩ "body"]])
      (request :: above ++ x.moment) ∧
      x.Begins above request ∧ x.state.lookup "$x" = some (.text "X") ∧
      x.InContext (request :: above ++ x.moment) request.2 := by
  obtain ⟨body, before, list, dot, d, u, u₁, u₂, hm, hu, hu₁, hu₂, hx, hd⟩ := list_begins
  let x : OpenWrap :=
    ⟨false, body, before, dot, u, [wrapRequest [.list ⟨0, 0⟩ [.text ⟨0, 0⟩ "body"]]]⟩
  have hb : x.Begins [(.walk list d, u₁)] (.walk before dot, u₂) :=
    ⟨by simp [Task.isRender], by simp [x, hu, hu₁], by simp [x, hu, hu₂]⟩
  refine ⟨x, (.walk before dot, u₂), [(.walk list d, u₁)], hm, hb, hx, ?_⟩
  refine (before_inContext_iff hm hb).2.1.mpr ⟨rfl, ?_⟩
  simp [x, hd, Bindings.names]

end TextTemplate
