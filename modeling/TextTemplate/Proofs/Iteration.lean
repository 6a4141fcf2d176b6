import TextTemplate.Proofs.Tasks
import TextTemplate.Proofs.Transcript

/-!
# Iteration

A loop goes through elements with keys, whatever collection they come from: one run
(`Rounds.iterate`) stands for the rounds of all collections (`Walk.rounds?_run`). A round sets the
last variables and asks for one walk of the body (`Rounds.round_bind`). Of a channel the body may
take items itself, so its elements are known only as the rounds go on.
-/

set_option autoImplicit false

namespace TextTemplate

variable {host : Host}

/-! ### Elements -/

/-- Values with their places as keys, from a place on. -/
def indexedFrom (place : Nat) (values : List Value) : List (Value × Value) :=
  (values.zipIdx place).map fun (v, i) ↦ (.ofNat i, v)

/-- The elements of a collection with their keys, in order; nothing for a value that is none. -/
def Value.elements? (r : Resources) : Value → Option (List (Value × Value))
  | .invalid | .nil => .some []
  | .list items _ => .some (indexedFrom 0 items)
  | .map entries _ => .some (entries.entries.map fun e ↦ (.ofKey e.1, e.2))
  | .int n => .some ((List.range n.toInt.toNat).map fun i ↦ (.ofNat i, .ofNat i))
  | .chan channel => .some (indexedFrom 0 (r.queue channel))
  | .object _ o => o.items?.map (indexedFrom 0)
  | _ => .none

private theorem indexedFrom_cons (place : Nat) (v : Value) (values : List Value) :
    indexedFrom place (v :: values) = (.ofNat place, v) :: indexedFrom (place + 1) values := rfl

/-- Values that are numbered are as many as before. -/
theorem length_indexedFrom (place : Nat) (values : List Value) :
    (indexedFrom place values).length = values.length := by
  rw [indexedFrom, List.length_map, List.length_zipIdx]

private theorem isEmpty_indexedFrom (place : Nat) (values : List Value) :
    (indexedFrom place values).isEmpty = values.isEmpty := by
  cases values with
  | nil | cons v rest => rfl

/-- Taking an item out gives the first one and leaves the others. -/
theorem Resources.receive_eq (r : Resources) (channel : Nat) :
    (r.receive channel).1 = (r.queue channel).head? ∧
      (r.receive channel).2.queue channel = (r.queue channel).tail := by
  rw [receive]
  cases hq : r.queue channel with
  | nil => exact ⟨rfl, hq⟩
  | cons v rest =>
    refine ⟨rfl, ?_⟩
    have hlt : channel < r.channels.size := by
      refine Nat.lt_of_not_le fun hge ↦ ?_
      rw [queue, Array.getD_eq_getD_getElem?, Array.getElem?_eq_none hge] at hq
      cases hq
    show (r.channels.setIfInBounds channel rest).getD channel [] = rest
    rw [Array.getD_eq_getD_getElem?, Array.getElem?_setIfInBounds_self_of_lt hlt]
    rfl

/-! ### Setting the last variables -/

/-- Sets the last variables to values in order, as far as there are variables. -/
def Bindings.setLast : List Value → Bindings → Bindings
  | [], vars => vars
  | v :: values, vars => (setLast values vars).setFromEnd (values.length + 1) v

namespace Bindings

/-- Values for the last bindings leave the names. -/
@[simp] theorem names_setLast (values : List Value) (vars : Bindings) :
    (vars.setLast values).names = vars.names := by
  induction values with
  | nil => rfl
  | cons v values ih => rw [setLast, names_setFromEnd, ih]

/-- Values for the last bindings leave their number. -/
@[simp] theorem length_setLast (values : List Value) (vars : Bindings) :
    (vars.setLast values).length = vars.length := by
  rw [← length_names, names_setLast, length_names]

end Bindings

/-- The variables that a pipeline is stored in. -/
def Pipe.variables (pipe : Pipe) : List String := pipe.declarations.map Declaration.name

/-- A pipeline that stores the dot in variables. -/
def Pipe.dotTo (how : Assign) (names : List String) : Pipe :=
  .mk ⟨0, 0⟩ (names.map fun name ↦ ⟨⟨0, 0⟩, name, how, false⟩) [.mk ⟨0, 0⟩ [.mk ⟨0, 0⟩ .dot]] false

namespace Rounds

variable (l : Rounds)

/-! ### One round -/

/-- The rounds of a loop whose pipeline has given a value and left a state. -/
def ofLoop (pipe : Pipe) (body : List Node) (dot v : Value) (t : State) : Rounds :=
  ⟨pipe.declarations, body, v.indirect, dot, t.vars.length⟩

/-- What the variables of a loop stand for in a round, in order. The state of the loop is an object
of its own in each round. -/
def values (number index : Nat) (key element : Value) (isLast : Bool) : List Value :=
  match l.declarations.length with
  | 0 => []
  | 1 =>
    if l.byState then
      [.object number (.loopState element index key (index == 0) isLast l.source l.dot)]
    else [element]
  | 3 => [.bool isLast, key, element]
  | _ => [key, element]

/-- The dot of a round: the element, unless the loop declares more than that. -/
def dotOf (element : Value) : Value :=
  match l.declarations.length with
  | 0 => element
  | 1 => if l.byState then l.dot else element
  | _ => l.dot

/-- The state in which the body of a round is walked. -/
def begin (index : Nat) (key element : Value) (isLast : Bool) (s : State) : State :=
  { s with
    vars := s.vars.setLast (l.values s.resources.nextNumber index key element isLast)
    resources :=
      if l.byState then { s.resources with nextNumber := s.resources.nextNumber + 1 }
      else s.resources }

/-- The state after a round: what the body has declared is dropped. -/
def leave (s : State) : State := { s with vars := s.vars.take l.mark }

/-- The resources once the next item has been taken out of the collection, if it is a channel. -/
def taken (r : Resources) : Resources :=
  match l.source with
  | .chan channel => (r.receive channel).2
  | _ => r

/-- The state once the next item has been taken out of the collection, if it is a channel. -/
def advance (s : State) : State := { s with resources := l.taken s.resources }

/-- The elements after a round that leaves a state. Of a channel only the next one has been taken
out. -/
def refill (index : Nat) (rest : List (Value × Value)) (s : State) : List (Value × Value) :=
  match l.source with
  | .chan channel =>
    rest.head?.elim [] fun next ↦ next :: indexedFrom (index + 1) (s.resources.queue channel)
  | _ => rest

/-- Rounds, at most `fuel` of them, over elements that are numbered from `index`. -/
def iterate : Nat → Nat → List (Value × Value) → Walk Unit
  | 0, _, _ => return ()
  | _ + 1, _, [] => return ()
  | fuel + 1, index, (key, element) :: rest => fun s ↦
    .ask (.walk l.body (l.dotOf element))
      (l.begin index key element rest.isEmpty (l.advance s)) fun
        | (.ok _, u) =>
          iterate fuel (index + 1) (l.refill (index + 1) rest u) (l.leave u)
        | (.error e, u) => .done (.error e, l.leave u)
        | (.panic message, u) => .done (.panic message, u)

private theorem bind_eq (index : Nat) (key element : Value) (isLast : Bool) (s : State) :
    l.bind index key element isLast s =
      .done (.ok (l.dotOf element), l.begin index key element isLast s) := by
  obtain ⟨declarations, body, source, dot, mark⟩ := l
  match declarations with
  | [] => rfl
  | [⟨_, _, _, byState⟩] =>
    cases byState with
    | true | false => rfl
  | [_, _] | [_, _, _] => rfl
  | _ :: _ :: _ :: _ :: _ => rfl

/-- A round asks for one walk of the body. -/
theorem round_bind {β : Type} (index : Nat) (key element : Value) (isLast : Bool)
    (f : Unit → Walk β) (s : State) :
    (l.round index key element isLast >>= f) s =
      .ask (.walk l.body (l.dotOf element)) (l.begin index key element isLast s) fun
        | (.ok _, u) => f () (l.leave u)
        | (.error e, u) => .done (.error e, l.leave u)
        | (.panic message, u) => .done (.panic message, u) := by
  rw [round, Walk.bind_run, Walk.bind_run, bind_eq]
  refine congrArg (Run.ask _ _) (funext fun r ↦ ?_)
  obtain ⟨outcome, u⟩ := r
  cases outcome with
  | ok _ | error _ | panic _ => rfl

variable {l}

/-- There is one value for each variable of a loop. -/
theorem length_values (h : l.declarations.length ≤ 3) (number index : Nat) (key element : Value)
    (isLast : Bool) :
    (l.values number index key element isLast).length = l.declarations.length := by
  obtain ⟨declarations, body, source, dot, mark⟩ := l
  match declarations with
  | [] | [_, _] | [_, _, _] => rfl
  | [⟨_, _, _, byState⟩] =>
    cases byState with
    | true | false => rfl
  | _ :: _ :: _ :: _ :: more =>
    simp only [List.length_cons] at h
    omega

/-- Without elements nothing is done. -/
theorem iterate_nil (fuel index : Nat) (s : State) :
    l.iterate fuel index [] s = .done (.ok (), s) := by
  cases fuel with
  | zero | succ fuel => rfl

/-- A round walks the body with its bindings; if that succeeds the other rounds come next. -/
theorem iterate_cons (fuel index : Nat) (key element : Value) (rest : List (Value × Value))
    (s : State) :
    l.iterate (fuel + 1) index ((key, element) :: rest) s =
      .ask (.walk l.body (l.dotOf element))
        (l.begin index key element rest.isEmpty (l.advance s)) fun
          | (.ok _, u) =>
            l.iterate fuel (index + 1) (l.refill (index + 1) rest u) (l.leave u)
          | (.error e, u) => .done (.error e, l.leave u)
          | (.panic message, u) => .done (.panic message, u) := rfl

/-- What is dropped of the variables after a round leaves those of the round. -/
theorem names_leave {index : Nat} {key element : Value} {isLast : Bool} {s u : State}
    (h : Level host (l.begin index key element isLast s) u)
    (hm : s.vars.length = l.mark) : (l.leave u).vars.names = s.vars.names := by
  have hnames : (l.begin index key element isLast s).vars.names = s.vars.names :=
    Bindings.names_setLast ..
  have hprefix := List.prefix_iff_eq_take.mp (hnames ▸ h.names)
  rw [Bindings.length_names, hm] at hprefix
  exact (Bindings.names_take ..).trans hprefix.symm

private theorem advance_chan {channel : Nat} (hs : l.source = .chan channel) (s : State) :
    l.advance s = { s with resources := (s.resources.receive channel).2 } := by
  rw [advance, taken, hs]

/-- Only channels lose items before the rounds. -/
theorem advance_eq (hs : ∀ channel, l.source ≠ .chan channel) (s : State) : l.advance s = s := by
  rw [advance, taken]
  split
  · next channel h => exact (hs channel h).elim
  · rfl

/-- No number is used up by the items that are taken out of a channel. -/
theorem nextNumber_taken (l : Rounds) (r : Resources) : (l.taken r).nextNumber = r.nextNumber := by
  rw [taken]
  split
  · rw [Resources.receive]
    split
    · rfl
    · rfl
  · rfl

/-- A round sets the last variables. -/
theorem vars_begin (index : Nat) (key element : Value) (isLast : Bool) (s : State) :
    (l.begin index key element isLast (l.advance s)).vars =
      s.vars.setLast (l.values s.resources.nextNumber index key element isLast) := by
  rw [← nextNumber_taken l s.resources]
  rfl

private theorem refill_eq (hs : ∀ channel, l.source ≠ .chan channel) (index : Nat)
    (rest : List (Value × Value)) (s : State) : l.refill index rest s = rest := by
  rw [refill]
  split
  · next channel h => exact (hs channel h).elim
  · rfl

/-! ### The rounds of a collection -/

private theorem pairs_eq_iterate (hs : ∀ channel, l.source ≠ .chan channel) (index : Nat)
    (items : List (Value × Value)) : l.pairs index items = l.iterate items.length index items := by
  induction items generalizing index with
  | nil => rfl
  | cons item rest ih =>
    funext s
    rw [pairs, round_bind, ih, List.length_cons, iterate_cons, advance_eq hs]
    simp only [refill_eq hs]

private theorem count_eq_pairs {n left : Nat} (h : left ≤ n) :
    l.count n left =
      l.pairs (n - left) ((List.range' (n - left) left).map fun i ↦ (.ofNat i, .ofNat i)) := by
  induction left with
  | zero => rfl
  | succ left ih =>
    have hsub : n - left = n - (left + 1) + 1 := by omega
    have hlast : (left == 0) =
        ((List.range' (n - (left + 1) + 1) left).map fun i ↦
          ((.ofNat i, .ofNat i) : Value × Value)).isEmpty := by
      cases left with
      | zero | succ left => rfl
    rw [List.range'_succ, List.map_cons, pairs, count, ih (Nat.le_of_succ_le h), hsub, hlast]

private theorem received_eq_iterate {channel : Nat} (hs : l.source = .chan channel)
    (fuel index : Nat) (first : Option Value) (s : State) :
    l.received channel fuel index first s =
      l.iterate fuel index
        (first.elim [] fun element ↦ indexedFrom index (element :: s.resources.queue channel))
        s := by
  induction fuel generalizing index first s with
  | zero => rfl
  | succ fuel ih =>
    cases first with
    | none => rfl
    | some element =>
      obtain ⟨hnext, -⟩ := s.resources.receive_eq channel
      have hlast : (s.resources.receive channel).1.isNone =
          (indexedFrom (index + 1) (s.resources.queue channel)).isEmpty := by
        rw [hnext, isEmpty_indexedFrom]
        cases s.resources.queue channel with
        | nil | cons v rest => rfl
      calc l.received channel (fuel + 1) index (some element) s
          = (l.round index (.ofNat index) element (s.resources.receive channel).1.isNone >>=
              fun _ ↦ l.received channel fuel (index + 1) (s.resources.receive channel).1)
              (l.advance s) := by
            rw [advance_chan hs]
            rfl
        _ = _ := by
            rw [round_bind, hlast, Option.elim_some, indexedFrom_cons, iterate_cons]
            refine congrArg (Run.ask _ _) (funext fun r ↦ ?_)
            obtain ⟨outcome, u⟩ := r
            cases outcome with
            | error _ | panic _ => rfl
            | ok _ =>
              dsimp only
              rw [ih, hnext, refill, hs]
              cases s.resources.queue channel with
              | nil | cons v rest => rfl

end Rounds

/-- The elements of a collection other than a channel are there from the start. -/
theorem Walk.rounds?_pairs {value : Value} {r : Resources} {items : List (Value × Value)}
    (h : value.elements? r = some items) (hc : ∀ channel, value ≠ .chan channel) :
    rounds? value = some fun l ↦ do
      l.pairs 0 items
      return !items.isEmpty := by
  cases value with
  | invalid | nil | list _ _ | map _ _ =>
    cases h
    rfl
  | object _ o =>
    obtain ⟨elements, ho, rfl⟩ := Option.map_eq_some_iff.mp h
    rw [rounds?, ho]
    rfl
  | int n =>
    cases h
    have hcount (l : Rounds) := l.count_eq_pairs (Nat.le_refl n.toInt.toNat)
    have hempty : decide (0 < n) = !(List.range' 0 n.toInt.toNat).isEmpty := by
      have hlt : 0 < n ↔ 0 < n.toInt := Int64.lt_iff_toInt_lt
      cases hn : n.toInt.toNat with
      | zero =>
        refine decide_eq_false fun h ↦ ?_
        have := hlt.mp h
        omega
      | succ k => exact decide_eq_true (hlt.mpr (by omega))
    simp only [Nat.sub_self] at hcount
    simp only [rounds?, hcount, hempty, List.range_eq_range', List.isEmpty_map]
  | chan channel => exact (hc channel rfl).elim
  | bool _ | uint _ | float _ | text _ | record _ _ | some _ _ | presence _ _ _ | func _
  | block _ => cases h

/-- The loop over a collection goes through its elements. -/
theorem Walk.rounds?_run {value : Value} {s : State} {items : List (Value × Value)}
    (h : value.elements? s.resources = some items) :
    ∃ run, rounds? value = some run ∧ ∀ l : Rounds, l.source = value →
      run l s = (l.iterate items.length 0 items >>= fun _ ↦ return !items.isEmpty)
        (l.advance s) := by
  by_cases hc : ∃ channel, value = .chan channel
  · obtain ⟨channel, rfl⟩ := hc
    cases h
    refine ⟨_, rfl, fun l hl ↦ ?_⟩
    obtain ⟨hfirst, hqueue⟩ := s.resources.receive_eq channel
    have hsome : (s.resources.receive channel).1.isSome =
        !(indexedFrom 0 (s.resources.queue channel)).isEmpty := by
      rw [hfirst, isEmpty_indexedFrom]
      cases s.resources.queue channel with
      | nil | cons v rest => rfl
    have hitems : ((s.resources.receive channel).1.elim [] fun element ↦
        indexedFrom 0 (element :: (s.resources.receive channel).2.queue channel)) =
          indexedFrom 0 (s.resources.queue channel) := by
      rw [hfirst, hqueue]
      cases s.resources.queue channel with
      | nil | cons v rest => rfl
    show (l.received channel (s.resources.queued channel) 0 (s.resources.receive channel).1 >>=
      fun _ ↦ return (s.resources.receive channel).1.isSome)
        { s with resources := (s.resources.receive channel).2 } = _
    rw [Walk.bind_run, Rounds.received_eq_iterate hl, hitems, hsome, Rounds.advance_chan hl,
      length_indexedFrom]
    rfl
  · have hc : ∀ channel, value ≠ .chan channel := fun channel h ↦ hc ⟨channel, h⟩
    refine ⟨_, rounds?_pairs h hc, fun l hl ↦ ?_⟩
    have hs : ∀ channel, l.source ≠ .chan channel := hl ▸ hc
    rw [Rounds.pairs_eq_iterate hs, Rounds.advance_eq hs]

/-! ### A loop after the value of its pipeline -/

namespace Walk

variable {α β : Type} {s u : State} {log : List Exchange}

/-- After a step that gives a value, a step goes on as the next one. -/
theorem bind_continues {m : Walk α} {f : α → Walk β} {a : α} {y : Run (Outcome β × State)}
    (h : (m s).Continues host log (.done (.ok a, u))) (hf : f a u = y) :
    ((m >>= f) s).Continues host log y := hf ▸ h.bind

/-- What a change after a step makes of the step's end. -/
def changed (f : State → State) : Outcome α × State → Outcome α × State
  | (.panic message, u) => (.panic message, u)
  | (o, u) => (o, f u)

/-- A change after a step applies to the state that the step leaves. -/
theorem after_run (m : Walk α) (f : State → State) (s : State) :
    (m.after f) s = (m s).bind fun r ↦ .done (changed f r) := by
  rw [after, bind_run, attempt, Run.bind_assoc]
  refine congrArg (Run.bind · (m s)) (funext fun r ↦ ?_)
  obtain ⟨outcome, u⟩ := r
  cases outcome with
  | ok _ | error _ | panic _ => rfl

/-- A step in a scope goes on as the step does, and then drops its variables. -/
theorem inScope_continues {m : Walk α} {y : Run (Outcome α × State)}
    (h : (m s).Continues host log y) :
    (inScope m s).Continues host log
      (y.bind fun r ↦
        .done (changed (fun u ↦ { u with vars := u.vars.take s.vars.length }) r)) := by
  rw [inScope, read_bind, after_run]
  exact h.bind

/-- A loop goes through the elements of the value of its pipeline, and then walks the other nodes if
there are no elements. -/
theorem loop_continues {pipe : Pipe} {dot v : Value} {t : State} {items : List (Value × Value)}
    (body : List Node) (otherwise : Option (List Node))
    (hp : (pipe.eval host dot s).Continues host log (.done (.ok v, t)))
    (hn : pipe.declarations.length ≤ 3) (hi : v.indirect.elements? t.resources = some items) :
    (loop host pipe body otherwise dot s).Continues host log
      ((((Rounds.ofLoop pipe body dot v t).iterate items.length 0 items >>= fun _ ↦
          optional (if items.isEmpty then otherwise else none) dot)
          ((Rounds.ofLoop pipe body dot v t).advance t)).bind
        fun r ↦ .done (changed (fun u ↦ { u with vars := u.vars.take s.vars.length }) r)) := by
  obtain ⟨run, hrun, heq⟩ := rounds?_run hi
  refine inScope_continues (bind_continues hp ?_)
  dsimp only
  rw [hrun]
  dsimp only
  rw [if_neg (by omega)]
  show (run (Rounds.ofLoop pipe body dot v t) >>= fun any ↦
    optional (if any then none else otherwise) dot) t = _
  rw [bind_run, heq _ rfl, bind_run, Run.bind_assoc, bind_run]
  refine congrArg (Run.bind · _) (funext fun r ↦ ?_)
  obtain ⟨outcome, u⟩ := r
  cases outcome with
  | error _ | panic _ => rfl
  | ok _ =>
    cases items with
    | nil | cons item rest => rfl

/-- A loop with too many variables stops after the value of its pipeline. -/
theorem loop_continues_of_many {pipe : Pipe} {dot v : Value} {t : State} (body : List Node)
    (otherwise : Option (List Node))
    (hp : (pipe.eval host dot s).Continues host log (.done (.ok v, t)))
    (hn : 3 < pipe.declarations.length) :
    ∃ r, (loop host pipe body otherwise dot s).Continues host log (.done r) := by
  cases hr : rounds? v.indirect with
  | none =>
    let stop : Outcome Unit × State := (.error (.of (.notIterable v.indirect.print)), t)
    refine ⟨changed _ stop, inScope_continues (y := .done stop) (bind_continues hp ?_)⟩
    dsimp only
    rw [hr]
    rfl
  | some run =>
    let stop : Outcome Unit × State := (.error (.new "too many declarations in range"), t)
    refine ⟨changed _ stop, inScope_continues (y := .done stop) (bind_continues hp ?_)⟩
    dsimp only
    rw [hr]
    dsimp only
    rw [if_pos hn]
    rfl

end Walk

end TextTemplate
