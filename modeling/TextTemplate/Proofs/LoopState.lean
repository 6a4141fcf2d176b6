import TextTemplate.Proofs.Lookup
import TextTemplate.Proofs.Rounds

/-!
# The states of a loop

A loop by state and a callback over the same collection both show, in each round, the element, its
key and place, whether the round is the first or the last, the collection and the outer dot. What a
run shows, in order, is told apart from how it goes on (`Run.Presents`). The two differ in the
collection, where it is wrapped, and in the keys of a channel (`Walk.callback_agrees_iff`).
-/

set_option autoImplicit false

namespace TextTemplate

variable {host : Host} {α β : Type}

/-! ### What a run shows -/

/-- A run asks for nothing that shows a state. -/
def Run.Silent (shows : Task → State → Object → Prop) : Run α → Prop
  | done _ => True
  | ask task s next => (∀ o, ¬ shows task s o) ∧ ∀ r, (next r).Silent shows

/-- A run shows states in order, one with each task that it asks for. It goes on to the next one
where the task succeeds and spares what the run depends on, and shows no more where it fails. -/
inductive Run.Presents (host : Host) (shows : Task → State → Object → Prop)
    (spares : State → State → Prop) : List Object → Run α → Prop where
  | none {x : Run α} : x.Silent shows → Presents host shows spares [] x
  | next {o : Object} {rest : List Object} {task : Task} {s : State} {next : Reply → Run α} :
      shows task s o →
      (∀ v u, (Walk.start host task s).Ends host (.ok v, u) → spares s u →
        Presents host shows spares rest (next (.ok v, u))) →
      (∀ r, (∀ v, r.1 ≠ .ok v) → (next r).Silent shows) →
      Presents host shows spares (o :: rest) (.ask task s next)

namespace Run

variable {shows : Task → State → Object → Prop} {spares : State → State → Prop}
  {states states' : List Object} {x : Run α} {f : α → Run β}

private theorem Silent.bind (h : x.Silent shows) (hf : ∀ a, (f a).Silent shows) :
    (x.bind f).Silent shows := by
  induction x with
  | done a => exact hf a
  | ask task s next ih => exact ⟨h.1, fun r ↦ ih r (h.2 r)⟩

/-- What shows no states may come after a run. -/
theorem Presents.bind (h : x.Presents host shows spares states) (hf : ∀ a, (f a).Silent shows) :
    (x.bind f).Presents host shows spares states := by
  induction h with
  | none hx => exact .none (hx.bind hf)
  | next ho _ hfail ih => exact .next ho ih fun r hr ↦ (hfail r hr).bind hf

/-- Where a task shows one state only, two sequences that a run shows begin alike. -/
theorem Presents.head?_eq (h : x.Presents host shows spares states)
    (k : x.Presents host shows spares states')
    (hshows : ∀ task s o o', shows task s o → shows task s o' → o = o') :
    states.head? = states'.head? := by
  cases h with
  | none hx =>
    cases k with
    | none _ => rfl
    | next ho _ _ => exact (hx.1 _ ho).elim
  | next ho _ _ =>
    cases k with
    | none hx => exact (hx.1 _ ho).elim
    | next ho' _ _ => exact congrArg some (hshows _ _ _ _ ho ho')

end Run

namespace Walk

variable {shows : Task → State → Object → Prop} {spares : State → State → Prop}
  {states : List Object} {m : Walk α} {s : State}

private theorem presents_bind {f : α → Walk β} (h : (m s).Presents host shows spares states)
    (hf : ∀ a u, (f a u).Silent shows) : ((m >>= f) s).Presents host shows spares states := by
  refine h.bind fun r ↦ ?_
  obtain ⟨outcome, u⟩ := r
  cases outcome with
  | ok a => exact hf a u
  | error _ | panic _ => exact trivial

private theorem presents_attempt (h : (m s).Presents host shows spares states) :
    (m.attempt s).Presents host shows spares states := by
  refine h.bind fun r ↦ ?_
  obtain ⟨outcome, u⟩ := r
  cases outcome with
  | ok _ | error _ | panic _ => exact trivial

private theorem presents_after (f : State → State) (h : (m s).Presents host shows spares states) :
    (m.after f s).Presents host shows spares states := by
  rw [after_run]
  exact h.bind fun _ ↦ trivial

end Walk

/-! ### The two sequences -/

namespace Loop

/-- A loop shows the state that a variable stands for while the body is walked. -/
def Binds (name : String) (body : List Node) (dot : Value) (task : Task) (s : State)
    (o : Object) : Prop :=
  task = .walk body dot ∧ ∃ number, s.lookup name = some (.object number o)

/-- A callback shows the state that is the dot of its block. -/
def Gives (handle : Nat) (extra : List Value) (task : Task) (_ : State) (o : Object) : Prop :=
  ∃ number, task = .invoke handle (.object number o) extra

/-- The states of the rounds over elements with their keys, numbered from `index`. -/
def statesFrom (source data : Value) (index : Nat) : List (Value × Value) → List Object
  | [] => []
  | (key, value) :: rest =>
    .loopState value index key (index == 0) rest.isEmpty source data ::
      statesFrom source data (index + 1) rest

/-- Values with their places as unsigned keys, from a place on. -/
def unsignedFrom (place : Nat) (values : List Value) : List (Value × Value) :=
  (values.zipIdx place).map fun (v, i) ↦ (.uint (UInt64.ofNat i), v)

/-- The elements of a collection with the keys that a callback is given. -/
def callbackElements (collection : Value) (items : List (Value × Value)) : List (Value × Value) :=
  match collection with
  | .chan _ => unsignedFrom 0 (items.map Prod.snd)
  | _ => items

end Loop

/-- The collections that both can go through: lists, maps and channels. -/
inductive Value.Collection : Value → Prop where
  | list (items : List Value) (cell : Option Nat) : Collection (.list items cell)
  | map (entries : Dict Value) (cell : Option Nat) : Collection (.map entries cell)
  | chan (channel : Nat) : Collection (.chan channel)

/-- Between two states a collection has kept its items, if it is a channel. -/
def Value.Spared (v : Value) (s u : State) : Prop :=
  ∀ channel, v.indirect = .chan channel → u.resources.queue channel = s.resources.queue channel

namespace Loop

private theorem Binds.unique {name : String} {body : List Node} {dot : Value} (task : Task)
    (s : State)
    (o o' : Object) (h : Binds name body dot task s o) (k : Binds name body dot task s o') :
    o = o' := by
  obtain ⟨-, _, ho⟩ := h
  obtain ⟨-, _, ho'⟩ := k
  rw [ho] at ho'
  cases ho'
  rfl

private theorem Gives.unique {handle : Nat} {extra : List Value} (task : Task) (s : State)
    (o o' : Object) (h : Gives handle extra task s o) (k : Gives handle extra task s o') :
    o = o' := by
  obtain ⟨_, rfl⟩ := h
  obtain ⟨_, ho⟩ := k
  cases ho
  rfl

end Loop

/-! ### Loops by state -/

open Loop (Binds Gives statesFrom)

namespace Rounds

variable {l : Rounds} {d : Declaration} {fuel index : Nat} {s : State}
  {items : List (Value × Value)}

private theorem lookup_begin (hl : l.declarations = [d]) (hd : d.byState = true)
    {outer : List String}
    (hv : s.vars.names = outer ++ [d.name]) (hm : s.vars.length = l.mark) (index : Nat)
    (key element : Value) (isLast : Bool) :
    ∃ number, (l.begin index key element isLast (l.advance s)).lookup d.name =
      some (.object number (.loopState element index key (index == 0) isLast l.source l.dot)) := by
  refine ⟨s.resources.nextNumber, ?_⟩
  have hstate : l.byState = true := by
    rw [byState, hl]
    exact hd
  have hvalues : l.values s.resources.nextNumber index key element isLast =
      [.object s.resources.nextNumber
        (.loopState element index key (index == 0) isLast l.source l.dot)] := by
    rw [values, hl, hstate]
    rfl
  have hvars : (l.begin index key element isLast (l.advance s)).vars = _ :=
    vars_begin_declared hv hm (by rw [hl]; rfl) (by rw [hl, List.length_singleton]; omega)
  rw [State.lookup_eq, hvars, hvalues, Bindings.lookup_append]
  simp [Bindings.lookup]

/-- A loop by state shows the states of its rounds. -/
theorem iterate_presents (hl : l.declarations = [d]) (hd : d.byState = true)
    {outer : List String} (hf : items.length ≤ fuel) (hv : s.vars.names = outer ++ [d.name])
    (hm : s.vars.length = l.mark) (hs : l.Stocked index items s) :
    (l.iterate fuel index items s).Presents host (Binds d.name l.body l.dot) l.Spares
      (statesFrom l.source l.dot index items) := by
  induction items generalizing fuel index s with
  | nil =>
    rw [iterate_nil]
    exact .none trivial
  | cons item rest ih =>
    obtain ⟨key, element⟩ := item
    obtain ⟨fuel, rfl⟩ : ∃ n, fuel = n + 1 := ⟨fuel - 1, by rw [List.length_cons] at hf; omega⟩
    have hdot : l.dotOf element = l.dot := by
      have hstate : l.byState = true := by
        rw [byState, hl]
        exact hd
      rw [dotOf, hl, hstate]
      rfl
    rw [iterate_cons, hdot]
    refine .next ⟨rfl, lookup_begin hl hd hv hm index key element rest.isEmpty⟩ ?_ ?_
    · intro v w hw hspares
      obtain ⟨hrefill, hstocked⟩ := hs.after_round hspares
      have hnames : (l.leave w).vars.names = s.vars.names :=
        (names_leave (Walk.start_level hw trivial) hm :)
      have hlength : (l.leave w).vars.length = l.mark := by
        rw [← Bindings.length_names, hnames, Bindings.length_names, hm]
      dsimp only
      rw [hrefill]
      exact ih (Nat.le_of_succ_le_succ hf) (hnames.trans hv) hlength hstocked
    · rintro ⟨outcome, w⟩ hfail
      cases outcome with
      | ok v => exact (hfail v rfl).elim
      | error _ | panic _ => exact trivial

end Rounds

/-! ### Callbacks -/

namespace Loop

variable {f : Frame} {index : Nat} {s : State} {handle : Nat} {extra : List Value}

/-- A round asks for one run of the block. -/
theorem program_round (f : Frame) (index : Nat) (key value : Value) (isLast : Bool)
    (next : Program Results) (s : State) :
    Walk.program host (f.round index key value isLast next) s =
      .ask (.invoke f.handle (.object s.resources.nextNumber
          (.loopState value index key (index == 0) isLast f.source f.data)) f.extra)
        { s with resources := { s.resources with nextNumber := s.resources.nextNumber + 1 } } fun
          | (.ok _, u) => Walk.program host next u
          | (.error e, u) => .done (.error e, u)
          | (.panic message, u) => .done (.panic message, u) := by
  refine congrArg (Run.ask _ _) (funext fun r ↦ ?_)
  obtain ⟨outcome, u⟩ := r
  cases outcome with
  | ok _ | error _ | panic _ => rfl

/-- A round shows its state, and the others theirs. -/
theorem round_presents {spares : State → State → Prop} {states : List Object}
    {key value : Value} {isLast : Bool} {next : Program Results}
    (hnext : ∀ u, spares { s with resources :=
        { s.resources with nextNumber := s.resources.nextNumber + 1 } } u →
      (Walk.program host next u).Presents host (Gives f.handle f.extra) spares states) :
    (Walk.program host (f.round index key value isLast next) s).Presents host
      (Gives f.handle f.extra) spares
      (.loopState value index key (index == 0) isLast f.source f.data :: states) := by
  rw [program_round]
  refine .next ⟨_, rfl⟩ (fun _ u _ hspares ↦ hnext u hspares) ?_
  rintro ⟨outcome, u⟩ hfail
  cases outcome with
  | ok v => exact (hfail v rfl).elim
  | error _ | panic _ => exact trivial

private theorem Frame.rounds_presents (f : Frame) (spares : State → State → Prop)
    (items : List (Value × Value)) (index : Nat) (s : State) :
    (Walk.program host (f.rounds index items) s).Presents host (Gives f.handle f.extra) spares
      (statesFrom f.source f.data index items) := by
  induction items generalizing index s with
  | nil => exact .none trivial
  | cons item rest ih =>
    obtain ⟨key, value⟩ := item
    exact round_presents fun u _ ↦ ih (index + 1) u

/-- The rounds over a channel, of which the first item has been taken out. -/
theorem channelRounds_presents {channel fuel : Nat} {values : List Value}
    (hc : f.source.indirect = .chan channel) (hf : values.length ≤ fuel)
    (hs : s.resources.queue channel = values.tail) :
    (Walk.program host (f.channelRounds channel fuel index values.head?) s).Presents host
      (Gives f.handle f.extra) f.source.Spared
      (statesFrom f.source f.data index (unsignedFrom index values)) := by
  induction values generalizing fuel index s with
  | nil =>
    cases fuel with
    | zero | succ fuel => exact .none trivial
  | cons value rest ih =>
    obtain ⟨fuel, rfl⟩ : ∃ n, fuel = n + 1 := ⟨fuel - 1, by rw [List.length_cons] at hf; omega⟩
    obtain ⟨hnext, hqueue⟩ := s.resources.receive_eq channel
    have hrest : (s.resources.receive channel).1 = rest.head? := by
      rw [hnext, hs, List.tail_cons]
    have hlast : rest.head?.isNone = (unsignedFrom (index + 1) rest).isEmpty := by
      cases rest with
      | nil | cons v rest => rfl
    show (Walk.program host (f.round index (.uint (UInt64.ofNat index)) value
      (s.resources.receive channel).1.isNone (f.channelRounds channel fuel (index + 1)
        (s.resources.receive channel).1))
      { s with resources := (s.resources.receive channel).2 }).Presents host _ _ _
    rw [hrest, hlast]
    refine round_presents fun u hspares ↦ ih (Nat.le_of_succ_le_succ hf) ?_
    rw [hspares channel hc]
    show (s.resources.receive channel).2.queue channel = rest.tail
    rw [hqueue, hs, List.tail_cons]

/-- A callback over a collection shows the states of its rounds, where the collection is the value
as it is given. -/
theorem program_presents {v dot : Value} {items : List (Value × Value)}
    (hc : v.indirect.Collection) (hi : v.indirect.elements? s.resources = some items) :
    (Walk.program host (program (dot :: .block handle :: v :: extra)) s).Presents host
      (Gives handle extra) v.Spared
      (statesFrom v dot 0 (callbackElements v.indirect items)) := by
  let f : Frame := ⟨handle, v, dot, extra⟩
  rw [program]
  generalize hv : v.indirect = w at hc hi
  cases hc with
  | list elements cell =>
    cases hi
    simp only [List.getD_cons_succ, List.getD_cons_zero, hv]
    exact f.rounds_presents ..
  | map entries cell =>
    cases hi
    simp only [List.getD_cons_succ, List.getD_cons_zero, hv]
    exact f.rounds_presents ..
  | chan channel =>
    cases hi
    obtain ⟨hfirst, hqueue⟩ := s.resources.receive_eq channel
    have hvalues : (indexedFrom 0 (s.resources.queue channel)).map Prod.snd =
        s.resources.queue channel := by
      simp [indexedFrom, Function.comp_def]
    simp only [List.getD_cons_succ, List.getD_cons_zero, hv]
    show (Walk.program host (f.channelRounds channel (s.resources.queued channel + 1) 0
      (s.resources.receive channel).1)
        { s with resources := (s.resources.receive channel).2 }).Presents host _ _ _
    rw [hfirst, callbackElements, hvalues]
    exact channelRounds_presents (f := f) hv (Nat.le_succ _) hqueue

/-- Calling the function by its name shows what its program shows. -/
theorem callFunction_presents {v dot : Value} {items : List (Value × Value)} (name : String)
    (hc : v.indirect.Collection) (hi : v.indirect.elements? s.resources = some items) :
    (Walk.callFunction host (.ofBuiltin .rangeCallback) name
      (dot :: .block handle :: v :: extra) s).Presents host (Gives handle extra) v.Spared
      (statesFrom v dot 0 (callbackElements v.indirect items)) := by
  have haccepts : (Function.ofBuiltin .rangeCallback).arity.accepts
      (dot :: .block handle :: v :: extra).length = true :=
    decide_eq_true (Nat.le_add_left 3 extra.length)
  rw [Walk.callFunction, Function.checkArity, haccepts, Function.program_of_accepts haccepts]
  show (((Walk.program host (program (dot :: .block handle :: v :: extra))).after
    fun u ↦ { u with place := s.place }).attempt >>= _) s |>.Presents host _ _ _
  refine Walk.presents_bind (Walk.presents_attempt (Walk.presents_after _
    (program_presents hc hi))) fun result u ↦ ?_
  cases result with
  | ok _ | error _ => exact trivial

end Loop

/-! ### Loops and callbacks over one collection -/

/-- If the first states are the same, the collection is the value itself, and no channel. -/
theorem Loop.eq_of_head? {v dot : Value} {r : Resources} {items : List (Value × Value)}
    (hc : v.indirect.Collection) (hi : v.indirect.elements? r = some items)
    (h : (statesFrom v.indirect dot 0 items).head? =
      (statesFrom v dot 0 (callbackElements v.indirect items)).head?) :
    items = [] ∨ v.indirect = v ∧ ∀ channel, v ≠ .chan channel := by
  cases items with
  | nil => exact .inl rfl
  | cons item rest =>
    obtain ⟨key, element⟩ := item
    refine .inr ?_
    generalize hv : v.indirect = w at hc hi h
    cases hc with
    | list _ _ | map _ _ =>
      have ho := Option.some.inj h
      injection ho with _ _ _ _ _ hsource _
      subst hsource
      exact ⟨rfl, nofun⟩
    | chan channel =>
      -- the key of the first item has another type
      cases hq : r.queue channel with
      | nil =>
        rw [Value.elements?, hq] at hi
        cases hi
      | cons first others =>
        rw [Value.elements?, hq] at hi
        cases hi
        cases h

/-- A variable that stands for a collection shows no state. -/
theorem Loop.not_binds {name : String} {body : List Node} {dot v : Value} {outer : Bindings}
    {task : Task} {s : State} (hv : s.vars = outer ++ [(name, v)]) (hc : v.indirect.Collection)
    (o : Object) : ¬ Binds name body dot task s o := by
  rintro ⟨-, number, ho⟩
  rw [State.lookup_eq, hv, Bindings.lookup_append] at ho
  simp [Bindings.lookup] at ho
  subst ho
  cases hc

namespace Walk

variable {pipe : Pipe} {d : Declaration} {dot v : Value} {s t : State}
  {items : List (Value × Value)}

/-- A loop by state over a collection shows the states of its rounds, where the collection is the
value without what wraps it. -/
theorem loop_presents (body : List Node) (otherwise : Option (List Node))
    (hp : (pipe.eval host dot s).Ends host (.ok v, t))
    (hl : pipe.declarations = [d]) (hd : d.assign = .declare) (hs : d.byState = true)
    (hc : v.indirect.Collection) (hi : v.indirect.elements? t.resources = some items) :
    ∃ evaluation rounds,
      (pipe.eval host dot s).Continues host evaluation (.done (.ok v, t)) ∧
      (loop host pipe body otherwise dot s).Continues host evaluation rounds ∧
      rounds.Presents host (Binds d.name body dot) v.Spared
        (statesFrom v.indirect dot 0 items) := by
  obtain ⟨evaluation, he⟩ := Run.ends_iff_continues.mp hp
  have hdeclare : ∀ d ∈ pipe.declarations, d.assign = .declare := by
    rw [hl]
    simpa using hd
  obtain ⟨outer, hvars⟩ := vars_of_eval_ends hp hdeclare
  have hname : pipe.variables = [d.name] := by
    rw [Pipe.variables, hl]
    rfl
  rw [hname] at hvars
  have hn : pipe.declarations.length ≤ 3 := by
    rw [hl, List.length_singleton]
    omega
  refine ⟨evaluation, _, he, loop_continues body otherwise he hn hi, ?_⟩
  refine Run.Presents.bind ?_ fun _ ↦ trivial
  cases items with
  | nil =>
    rw [Rounds.advance_of_empty (l := Rounds.ofLoop pipe body dot v t) hi]
    refine .none ?_
    cases otherwise with
    | none => exact trivial
    | some nodes => exact ⟨Loop.not_binds hvars hc, fun r ↦ by
        obtain ⟨outcome, u⟩ := r
        cases outcome with
        | ok _ | error _ | panic _ => exact trivial⟩
  | cons item rest =>
    refine presents_bind ?_ fun _ u ↦ trivial
    have hnames : t.vars.names = outer.names ++ [d.name] := by
      rw [hvars, Bindings.names_append]
      rfl
    exact Rounds.iterate_presents (l := Rounds.ofLoop pipe body dot v t) hl hs (Nat.le_refl _)
      hnames rfl (Rounds.stocked_advance hi)

/-- A loop by state and a callback over one collection show the same states but for the collection,
which the callback shows as it is given, and for the keys of a channel, which are unsigned in the
callback. So they agree if and only if there are no elements, or the collection is a list or a map
that nothing wraps. -/
theorem callback_agrees_iff {u : State} (body : List Node) (otherwise : Option (List Node))
    (hp : (pipe.eval host dot s).Ends host (.ok v, t))
    (hl : pipe.declarations = [d]) (hd : d.assign = .declare) (hs : d.byState = true)
    (hc : v.indirect.Collection) (hi : v.indirect.elements? t.resources = some items)
    (hu : v.indirect.elements? u.resources = some items) (name : String) (handle : Nat)
    (extra : List Value) :
    ∃ evaluation rounds,
      (pipe.eval host dot s).Continues host evaluation (.done (.ok v, t)) ∧
      (loop host pipe body otherwise dot s).Continues host evaluation rounds ∧
      let callback := callFunction host (.ofBuiltin .rangeCallback) name
        (dot :: .block handle :: v :: extra) u
      rounds.Presents host (Binds d.name body dot) v.Spared
        (statesFrom v.indirect dot 0 items) ∧
      callback.Presents host (Gives handle extra) v.Spared
        (statesFrom v dot 0 (Loop.callbackElements v.indirect items)) ∧
      ((∃ states, rounds.Presents host (Binds d.name body dot) v.Spared states ∧
        callback.Presents host (Gives handle extra) v.Spared states) ↔
          items = [] ∨ v.indirect = v ∧ ∀ channel, v ≠ .chan channel) := by
  obtain ⟨evaluation, rounds, he, hloop, hrounds⟩ :=
    loop_presents body otherwise hp hl hd hs hc hi
  have hcallback : (callFunction host (.ofBuiltin .rangeCallback) name
      (dot :: .block handle :: v :: extra) u).Presents host _ _ _ :=
    Loop.callFunction_presents name hc hu
  refine ⟨evaluation, rounds, he, hloop, hrounds, hcallback, ?_, ?_⟩
  · rintro ⟨states, hr, hk⟩
    have hhead := (hrounds.head?_eq hr Loop.Binds.unique).trans
      (hcallback.head?_eq hk Loop.Gives.unique).symm
    exact Loop.eq_of_head? hc hi hhead
  · rintro (rfl | ⟨hv, hchan⟩)
    · have hnone : Loop.callbackElements v.indirect [] = [] := by
        generalize v.indirect = w at hc
        cases hc with
        | list _ _ | map _ _ | chan _ => rfl
      rw [hnone] at hcallback
      exact ⟨[], hrounds, hcallback⟩
    · have hitems : Loop.callbackElements v.indirect items = items := by
        rw [hv] at hc ⊢
        cases hc with
        | list _ _ | map _ _ => rfl
        | chan channel => exact (hchan channel rfl).elim
      rw [hitems] at hcallback
      rw [hv] at hrounds
      exact ⟨_, hrounds, hcallback⟩

/-- A pipeline that stores the dot in a variable by state. -/
def stateOfDot : Pipe :=
  .mk ⟨0, 0⟩ [⟨⟨0, 0⟩, "$s", .declare, true⟩] [.mk ⟨0, 0⟩ [.mk ⟨0, 0⟩ .dot]] false

/-- On a map with two entries they show the same two states. -/
theorem callback_agrees_entries :
    let states : List Object :=
      [.loopState (.text "x") 0 (.text "a") true false .twoEntries .twoEntries,
        .loopState (.text "y") 1 (.text "b") false true .twoEntries .twoEntries]
    ∃ evaluation rounds,
      (loop .empty stateOfDot [] none .twoEntries .blank).Continues .empty evaluation rounds ∧
      rounds.Presents .empty (Binds "$s" [] .twoEntries) Value.twoEntries.Spared states ∧
      (callFunction .empty (.ofBuiltin .rangeCallback) "range_callback"
        [.twoEntries, .block 0, .twoEntries] .blank).Presents .empty (Gives 0 [])
        Value.twoEntries.Spared states := by
  have heval : (stateOfDot.eval .empty .twoEntries .blank).Ends .empty (.ok .twoEntries, _) :=
    .value rfl
  have hitems : Value.twoEntries.indirect.elements? State.blank.resources =
      some [(.text "a", .text "x"), (.text "b", .text "y")] := rfl
  obtain ⟨evaluation, rounds, -, hloop, hrounds, hcallback, -⟩ :=
    callback_agrees_iff [] none heval rfl rfl rfl (.map _ _) hitems hitems "range_callback" 0 []
  exact ⟨evaluation, rounds, hloop, hrounds, hcallback⟩

/-- On a channel they do not: the first key is a signed integer in the loop and an unsigned one in
the callback. -/
theorem callback_disagrees_channel :
    ∃ (s u u' : State) (next next' : _),
      s.resources.queue 0 = [.text "p"] ∧
      loop .empty stateOfDot [] none (.chan 0) s = .ask (.walk [] (.chan 0)) u next ∧
      u.lookup "$s" =
        some (.object 0 (.loopState (.text "p") 0 (.int 0) true true (.chan 0) (.chan 0))) ∧
      callFunction .empty (.ofBuiltin .rangeCallback) "range_callback"
          [.chan 0, .block 0, .chan 0] s =
        .ask (.invoke 0 (.object 0
          (.loopState (.text "p") 0 (.uint 0) true true (.chan 0) (.chan 0))) []) u' next' := by
  refine ⟨{ State.blank with resources := (Resources.initial .nil).newChannel [.text "p"] |>.2 },
    _, _, _, _, rfl, rfl, rfl, rfl⟩

end Walk

end TextTemplate
