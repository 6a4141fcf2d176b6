import TextTemplate.Proofs.Iteration
import TextTemplate.Value.Iterator

/-!
# The rounds of a loop

A loop that declares its variables walks its body once for each element, in order, with variables
that stand for the element, its key, the state of the loop and whether the round is the last
(`Walk.loop_visits`). Of what a body has left the next round finds everything but the variables of
the loop and those that the body has declared.
-/

set_option autoImplicit false

namespace TextTemplate

variable {host : Host}

namespace Rounds

/-- The rounds of a loop over elements, of which each one begins in the state that the one before
has left: but for the resources that the loop itself uses up, and for the variables, which are those
from outside of the loop and then those of the loop with their values in this round. -/
inductive Visits (l : Rounds) (names : List String) :
    Nat → State → List (Value × Value) → List Exchange → Prop where
  | none {index : Nat} {before : State} : Visits l names index before [] []
  | round {index : Nat} {before s u : State} {key element v : Value}
      {rest : List (Value × Value)} {log : List Exchange} :
      s.vars = before.vars.take (l.mark - names.length) ++
        names.zip (l.values before.resources.nextNumber index key element rest.isEmpty) →
      { s with vars := before.vars, resources := before.resources } = before →
      Visits l names (index + 1) u rest log →
      Visits l names index before ((key, element) :: rest)
        (⟨.walk l.body (l.dotOf element), s, (.ok v, u)⟩ :: log)

end Rounds

/-! ### Variables that were just declared -/

namespace Bindings

private theorem names_declared (names : List String) (v : Value) :
    Bindings.names (names.map fun name ↦ (name, v)) = names := by
  rw [Bindings.names, List.map_map]
  exact List.map_id _

private theorem setFromEnd_append (outer tail : Bindings) (b : String × Value) (v : Value) :
    (outer ++ b :: tail).setFromEnd (tail.length + 1) v = outer ++ (b.1, v) :: tail := by
  have hlength : (outer ++ b :: tail).length = outer.length + (tail.length + 1) := by
    rw [List.length_append, List.length_cons]
  rw [setFromEnd, if_pos (by omega), setAt, hlength, Nat.add_sub_cancel]
  clear hlength
  induction outer with
  | nil => rfl
  | cons c outer ih => exact congrArg (c :: ·) ih

/-- Setting the last variables, all of them, gives them the values in order. -/
theorem setLast_append {outer tail : Bindings} {values : List Value}
    (h : values.length = tail.length) :
    (outer ++ tail).setLast values = outer ++ tail.names.zip values := by
  induction values generalizing outer tail with
  | nil =>
    cases List.length_eq_zero_iff.mp h.symm
    rfl
  | cons v values ih =>
    cases tail with
    | nil => cases h
    | cons b tail =>
      have hrest : values.length = tail.length := Nat.succ.inj h
      have hzip : List.length ((names tail).zip values) = values.length := by
        rw [List.length_zip, length_names, hrest, Nat.min_self]
      rw [setLast, List.append_cons, ih hrest, List.append_assoc, ← hzip]
      exact setFromEnd_append outer _ b v

end Bindings

namespace Walk

variable {s : State}

/-- Declared variables are put on top of the others. -/
theorem declareAll_of_declare (v : Value) {ds : List Declaration}
    (hd : ∀ d ∈ ds, d.assign = .declare) (s : State) :
    declareAll v ds s =
      .done (.ok (), { s with vars := s.vars ++ ds.map fun d ↦ (d.name, v) }) := by
  induction ds generalizing s with
  | nil =>
    rw [List.map_nil, List.append_nil]
    rfl
  | cons d rest ih =>
    obtain ⟨hd, hrest⟩ := List.forall_mem_cons.mp hd
    rw [declareAll, declare, hd]
    show declareAll v rest _ = _
    rw [ih hrest, List.map_cons, List.append_assoc]
    rfl

/-- A pipeline that declares its variables leaves them on top of the others. -/
theorem vars_of_eval_ends {pipe : Pipe} {dot v : Value} {t : State}
    (h : (pipe.eval host dot s).Ends host (.ok v, t))
    (hd : ∀ d ∈ pipe.declarations, d.assign = .declare) :
    ∃ outer, t.vars = outer ++ pipe.variables.map fun name ↦ (name, v) := by
  obtain ⟨span, ds, commands, trim⟩ := pipe
  change ∀ d ∈ ds, d.assign = .declare at hd
  rw [Pipe.eval] at h
  obtain ⟨_, _, -, h⟩ := of_bind_ends_ok h
  obtain ⟨value, u, -, h⟩ := of_bind_ends_ok h
  obtain ⟨_, t', hdeclared, h⟩ := of_bind_ends_ok h
  rw [declareAll_of_declare value hd] at hdeclared
  cases hdeclared
  cases h
  refine ⟨u.vars, ?_⟩
  rw [Pipe.variables, List.map_map]
  rfl

end Walk

namespace Rounds

variable {l : Rounds} {names : List String} {index : Nat} {s u : State}
  {items rest : List (Value × Value)} {key element : Value} {isLast : Bool} {log : List Exchange}

private theorem queue_taken {channel : Nat} (h : l.source = .chan channel) (r : Resources) :
    (l.taken r).queue channel = (r.queue channel).tail := by
  rw [taken, h]
  exact (r.receive_eq channel).2

/-- The variables of a round are those from outside of the loop and then those of the loop. -/
theorem vars_begin_declared {outer : List String} (hv : s.vars.names = outer ++ names)
    (hm : s.vars.length = l.mark) (hd : names.length = l.declarations.length)
    (hn : l.declarations.length ≤ 3) :
    (l.begin index key element isLast (l.advance s)).vars =
      s.vars.take (l.mark - names.length) ++
        names.zip (l.values s.resources.nextNumber index key element isLast) := by
  have houter : outer.length = l.mark - names.length := by
    have hlength := congrArg List.length hv
    rw [Bindings.length_names, List.length_append] at hlength
    omega
  have htail : Bindings.names (s.vars.drop (l.mark - names.length)) = names := by
    rw [Bindings.names, List.map_drop, ← houter]
    show s.vars.names.drop outer.length = names
    rw [hv, List.drop_left]
  have hlength : (l.values s.resources.nextNumber index key element isLast).length =
      (s.vars.drop (l.mark - names.length)).length := by
    rw [length_values hn, ← hd, ← Bindings.length_names, htail]
  calc (l.begin index key element isLast (l.advance s)).vars
      = s.vars.setLast (l.values s.resources.nextNumber index key element isLast) :=
        vars_begin ..
    _ = Bindings.setLast (l.values s.resources.nextNumber index key element isLast)
          (s.vars.take (l.mark - names.length) ++ s.vars.drop (l.mark - names.length)) := by
      rw [List.take_append_drop]
    _ = _ := by rw [Bindings.setLast_append hlength, htail]

private theorem queue_begin (l : Rounds) (index : Nat) (key element : Value) (isLast : Bool)
    (s : State) (channel : Nat) :
    (l.begin index key element isLast s).resources.queue channel = s.resources.queue channel := by
  rw [begin]
  cases l.byState with
  | true | false => rfl

/-! ### All rounds -/

/-- What a round finds of the state before it. -/
theorem Visits.congr {before before' : State} (h : l.Visits names index before items log)
    (hv : before'.vars.take (l.mark - names.length) = before.vars.take (l.mark - names.length))
    (hr : before'.resources.nextNumber = before.resources.nextNumber)
    (hs : { before with vars := before'.vars, resources := before'.resources } = before') :
    l.Visits names index before' items log := by
  cases h with
  | none => exact .none
  | round hvars hstate hrest =>
    refine .round ?_ ?_ hrest
    · rw [hvars, hv, hr]
    · rw [← hs, ← hstate]

/-- The items of a channel, where the first one has been taken out. -/
def Stocked (l : Rounds) (index : Nat) (items : List (Value × Value)) (s : State) : Prop :=
  ∀ channel, l.source = .chan channel →
    items.tail = indexedFrom (index + 1) (s.resources.queue channel)

/-- Between two states a channel that a loop goes through has kept its items. -/
def Spares (l : Rounds) (s u : State) : Prop :=
  ∀ channel, l.source = .chan channel → u.resources.queue channel = s.resources.queue channel

/-- A body that spares the channel leaves the elements of the other rounds. -/
theorem Stocked.after_round {item : Value × Value} (h : l.Stocked index (item :: rest) s)
    (hu : l.Spares (l.begin index key element isLast (l.advance s)) u) :
    l.refill (index + 1) rest u = rest ∧ l.Stocked (index + 1) rest (l.leave u) := by
  have hqueue (channel : Nat) (hc : l.source = .chan channel) :
      rest = indexedFrom (index + 1) (s.resources.queue channel) ∧
        u.resources.queue channel = (s.resources.queue channel).tail := by
    refine ⟨h channel hc, (hu channel hc).trans ?_⟩
    rw [queue_begin]
    exact queue_taken hc s.resources
  constructor
  · rw [refill]
    split
    · next channel hc =>
      obtain ⟨hrest, hleft⟩ := hqueue channel hc
      rw [hleft, hrest]
      cases s.resources.queue channel with
      | nil | cons v values => rfl
    · rfl
  · intro channel hc
    obtain ⟨hrest, hleft⟩ := hqueue channel hc
    show rest.tail = indexedFrom (index + 2) (u.resources.queue channel)
    rw [hleft, hrest]
    cases s.resources.queue channel with
    | nil | cons v values => rfl

/-- If the body succeeds in every round, there is one round for each element. -/
theorem iterate_visits {fuel : Nat} {outer : List String} (hf : items.length ≤ fuel)
    (hd : names.length = l.declarations.length) (hn : l.declarations.length ≤ 3)
    (hv : s.vars.names = outer ++ names) (hm : s.vars.length = l.mark)
    (hs : l.Stocked index items s)
    (hb : ∀ p ∈ items, ∀ u,
      (l.iterate fuel index items s).Asks host (.walk l.body (l.dotOf p.2)) u →
        ∃ v w, (Walk.start host (.walk l.body (l.dotOf p.2)) u).Ends host (.ok v, w) ∧
          l.Spares u w) :
    ∃ log last, (l.iterate fuel index items s).Continues host log (.done (.ok (), last)) ∧
      l.Visits names index s items log := by
  induction items generalizing fuel index s with
  | nil => exact ⟨[], s, iterate_nil fuel index s ▸ .here _, .none⟩
  | cons item rest ih =>
    obtain ⟨key, element⟩ := item
    obtain ⟨fuel, rfl⟩ : ∃ n, fuel = n + 1 := ⟨fuel - 1, by rw [List.length_cons] at hf; omega⟩
    rw [iterate_cons] at hb ⊢
    obtain ⟨v, w, hw, hspares⟩ := hb _ List.mem_cons_self _ .now
    obtain ⟨hrefill, hstocked⟩ := hs.after_round hspares
    have hlevel := Walk.start_level hw trivial
    have hnames : (l.leave w).vars.names = s.vars.names := (names_leave hlevel hm :)
    have hlength : (l.leave w).vars.length = l.mark := by
      rw [← Bindings.length_names, hnames, Bindings.length_names, hm]
    have hrest : ∀ p ∈ rest, ∀ u,
        (l.iterate fuel (index + 1) rest (l.leave w)).Asks host (.walk l.body (l.dotOf p.2)) u →
          ∃ v w, (Walk.start host (.walk l.body (l.dotOf p.2)) u).Ends host (.ok v, w) ∧
            l.Spares u w := by
      intro p hp u hu
      rw [← hrefill] at hu
      exact hb p (List.mem_cons_of_mem _ hp) u (.later hw hu)
    obtain ⟨log, last, hlog, hvisits⟩ :=
      ih (Nat.le_of_succ_le_succ hf) (hnames.trans hv) hlength hstocked hrest
    rw [← hrefill] at hlog
    refine ⟨_ :: log, last, .after hw hlog, .round (vars_begin_declared hv hm hd hn) rfl ?_⟩
    refine hvisits.congr ?_ rfl rfl
    rw [leave, List.take_take, Nat.min_eq_left (Nat.sub_le ..)]

/-- Nothing is taken out of a collection without elements. -/
theorem advance_of_empty (h : l.source.elements? s.resources = some []) : l.advance s = s := by
  by_cases hc : ∃ channel, l.source = .chan channel
  · obtain ⟨channel, hc⟩ := hc
    rw [hc] at h
    have hq : s.resources.queue channel = [] := by
      rw [← List.length_eq_zero_iff, ← length_indexedFrom 0, Option.some.inj h]
      rfl
    have hr : (s.resources.receive channel).2 = s.resources := by
      rw [Resources.receive, hq]
    rw [advance, taken, hc]
    exact congrArg (fun r ↦ { s with resources := r }) hr
  · exact advance_eq (fun channel h ↦ hc ⟨channel, h⟩) s

/-- The first item of a channel has been taken out when the rounds begin. -/
theorem stocked_advance (h : l.source.elements? s.resources = some items) :
    l.Stocked 0 items (l.advance s) := by
  intro channel hc
  show items.tail = indexedFrom 1 ((l.taken s.resources).queue channel)
  rw [hc] at h
  cases h
  rw [queue_taken hc]
  cases s.resources.queue channel with
  | nil | cons v values => rfl

end Rounds

/-- The entries of a sorted map are elements in ascending order of their keys. -/
theorem Value.pairwise_elements? {value : Value} {r : Resources} {items : List (Value × Value)}
    {entries : Dict Value} {cell : Option Nat} (h : value.elements? r = .some items)
    (hm : value = .map entries cell) (hs : entries.Sorted) :
    items.Pairwise fun a b ↦ ∃ j k, a.1 = .ofKey j ∧ b.1 = .ofKey k ∧ j.order k = .lt := by
  subst hm
  cases h
  exact List.pairwise_map.mpr (hs.imp fun {a b} hab ↦ ⟨a.1, b.1, rfl, rfl, hab⟩)

/-- The elements of the object of an iterator are what the calls of the iterator yield, under their
numbers. -/
theorem HostIterator.elements?_object {σ : Type} (it : HostIterator σ) (id : Nat)
    (r : Resources) : ∃ items, (Value.object id it.object).elements? r = some items ∧
      ∀ n, items[n]? = ((Drive.start it).nth n).map fun v ↦ (.ofNat n, v) := by
  refine ⟨indexedFrom 0 it.items, rfl, fun n ↦ ?_⟩
  rw [Drive.nth_start, indexedFrom, List.getElem?_map, List.getElem?_zipIdx, Option.map_map,
    Nat.zero_add]
  rfl

/-- A loop that declares its variables walks its body once for each element, in order, as long as
the body succeeds, and walks the other nodes if and only if there are no elements. -/
theorem Walk.loop_visits {pipe : Pipe} {dot v : Value} {s t : State}
    {items : List (Value × Value)} (body : List Node) (otherwise : Option (List Node))
    (hp : (pipe.eval host dot s).Ends host (.ok v, t))
    (hd : ∀ d ∈ pipe.declarations, d.assign = .declare) (hn : pipe.declarations.length ≤ 3)
    (hi : v.indirect.elements? t.resources = some items)
    (hb : ∀ item ∈ items, ∀ u, (loop host pipe body otherwise dot s).Asks host
        (.walk body ((Rounds.ofLoop pipe body dot v t).dotOf item.2)) u →
      ∃ x w, (start host (.walk body ((Rounds.ofLoop pipe body dot v t).dotOf item.2)) u).Ends host
        (.ok x, w) ∧ (Rounds.ofLoop pipe body dot v t).Spares u w) :
    ∃ outer evaluation rounds,
      t.vars = outer ++ pipe.variables.map (fun name ↦ (name, v)) ∧
      (pipe.eval host dot s).Continues host evaluation (.done (.ok v, t)) ∧
      (Rounds.ofLoop pipe body dot v t).Visits pipe.variables 0 t items rounds ∧
      (items ≠ [] ∨ otherwise = none →
        ∃ last, (loop host pipe body otherwise dot s).Continues host (evaluation ++ rounds)
          (.done (.ok (), last))) ∧
      (∀ nodes, items = [] → otherwise = some nodes →
        ∃ next, (loop host pipe body otherwise dot s).Continues host evaluation
          (.ask (.walk nodes dot) t next) ∧ ∀ r, ∃ last, next r = .done last) ∧
      ∀ entries cell, v.indirect = .map entries cell → entries.Sorted →
        items.Pairwise fun a b ↦ ∃ j k, a.1 = .ofKey j ∧ b.1 = .ofKey k ∧ j.order k = .lt := by
  obtain ⟨outer, hvars⟩ := vars_of_eval_ends hp hd
  obtain ⟨evaluation, he⟩ := Run.ends_iff_continues.mp hp
  have hloop := loop_continues body otherwise he hn hi
  have hsorted (entries : Dict Value) (cell : Option Nat)
      (hm : v.indirect = .map entries cell) (hs : entries.Sorted) :=
    Value.pairwise_elements? hi hm hs
  cases items with
  | nil =>
    rw [Rounds.advance_of_empty (l := Rounds.ofLoop pipe body dot v t) hi] at hloop
    refine ⟨outer, evaluation, [], hvars, he, .none, ?_, ?_, hsorted⟩
    · rintro (h | rfl)
      · exact (h rfl).elim
      · rw [List.append_nil]
        exact ⟨_, hloop⟩
    · rintro nodes - rfl
      refine ⟨_, hloop, ?_⟩
      rintro ⟨outcome, u⟩
      cases outcome with
      | ok _ | error _ | panic _ => exact ⟨_, rfl⟩
  | cons item rest =>
    have hnames : t.vars.names = outer.names ++ pipe.variables := by
      rw [hvars, Bindings.names_append, Bindings.names_declared]
    obtain ⟨rounds, last, hrounds, hvisits⟩ := Rounds.iterate_visits
      (l := Rounds.ofLoop pipe body dot v t) (s := Rounds.advance _ t) (Nat.le_refl _)
      (List.length_map ..) hn hnames rfl (Rounds.stocked_advance hi)
      fun p hp u hu ↦ hb p hp u (hloop.asks (hu.bind.bind))
    have hfirst : (Rounds.ofLoop pipe body dot v t).Visits pipe.variables 0 t (item :: rest)
        rounds :=
      hvisits.congr rfl (Rounds.nextNumber_taken _ t.resources).symm rfl
    refine ⟨outer, evaluation, rounds, hvars, he, hfirst, fun _ ↦ ?_, ?_, hsorted⟩
    · exact ⟨_, hloop.trans hrounds.bind.bind⟩
    · intro _ h
      cases h

/-- A map with two entries. -/
def Value.twoEntries : Value :=
  .map ⟨[(.text "a", .text "x"), (.text "b", .text "y")]⟩ .none

/-- A body that declares a variable. -/
def Node.declaring : List Node :=
  [.action ⟨0, 0⟩ (.mk ⟨0, 0⟩ [⟨⟨0, 0⟩, "$z", .declare, false⟩]
    [.mk ⟨0, 0⟩ [.mk ⟨0, 0⟩ (.text "z")]] false)]

/-- A loop over a map with two entries walks its body twice, with the keys in order, and only the
second round is the last; what the body declares is gone in the second round. -/
theorem Walk.loop_visits_entries :
    ∃ evaluation first second outer outer' last,
      (loop .empty (.dotTo .declare ["$last", "$k", "$e"]) Node.declaring (some []) .twoEntries
        State.blank).Continues .empty (evaluation ++ [first, second]) (.done (.ok (), last)) ∧
      first.task = .walk Node.declaring .twoEntries ∧
      first.state.vars = outer ++
        [("$last", .bool false), ("$k", .text "a"), ("$e", .text "x")] ∧
      second.task = .walk Node.declaring .twoEntries ∧
      second.state.vars = outer' ++
        [("$last", .bool true), ("$k", .text "b"), ("$e", .text "y")] := by
  have heval : (Pipe.eval .empty .twoEntries (.dotTo .declare ["$last", "$k", "$e"])
      State.blank).Ends .empty (.ok .twoEntries, _) := .value rfl
  obtain ⟨_, evaluation, rounds, -, -, hvisits, hdone, -, -⟩ :=
    loop_visits Node.declaring (some []) heval (by decide) (by decide) rfl
      fun item _ u _ ↦ ⟨_, _, .value rfl, fun channel hc ↦ nomatch hc⟩
  obtain ⟨last, hlast⟩ := hdone (.inl (by simp))
  cases hvisits with
  | round hfirst _ hvisits =>
    cases hvisits with
    | round hsecond _ hvisits =>
      cases hvisits with
      | none => exact ⟨_, _, _, _, _, last, hlast, rfl, hfirst, rfl, hsecond⟩

end TextTemplate
