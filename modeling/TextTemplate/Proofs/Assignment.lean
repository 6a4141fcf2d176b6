import TextTemplate.Proofs.Before
import TextTemplate.Proofs.Iteration

/-!
# What a loop assigns

In each round a loop sets the last variables, as many as it names, wherever the names point
(`Walk.loop_sets_last`). Variables that were just declared are the last ones; those that are
assigned need not be, and then others are overwritten in their place (`not_assigned_below`).
-/

set_option autoImplicit false

namespace TextTemplate

variable {host : Host}

/-! ### Named and last variables -/

namespace Bindings

variable {names : List String} {values : List Value} {vars vars' : Bindings} {p i : Nat} {v : Value}

/-- The variables that names mean are the last ones, in the order of the names. -/
def Aligned (names : List String) (vars : Bindings) : Prop :=
  ∀ i name, names[i]? = some name →
    ∃ p, placeOf? name vars = some p ∧ p + names.length = vars.length + i

/-- From some variables to others, what has changed is that the variables which names mean have
their values. -/
structure Assigns (names : List String) (values : List Value) (vars vars' : Bindings) : Prop where
  reads : ∀ (i : Nat) name v, names[i]? = some name → values[i]? = some v →
    vars'.lookup name = some v
  keeps : ∀ p, (∀ name ∈ names, placeOf? name vars ≠ some p) → vars'[p]? = vars[p]?

private theorem getElem?_setFromEnd (vars : Bindings) (n : Nat) (v : Value) (p : Nat) :
    (vars.setFromEnd n v)[p]? =
      if p + n = vars.length then vars[p]?.map fun b ↦ (b.1, v) else vars[p]? := by
  rw [setFromEnd]
  by_cases hn : n ≤ vars.length
  · rw [if_pos hn, setAt, List.getElem?_modify]
    by_cases hp : p + n = vars.length
    · have hplace : vars.length - n = p := by omega
      simp [hp, hplace]
    · have hplace : vars.length - n ≠ p := by omega
      simp [hp, hplace]
  · rw [if_neg hn, if_neg (by omega)]

/-- Variables before the last ones are not set. -/
theorem getElem?_setLast_of_lt (h : p + values.length < vars.length) :
    (vars.setLast values)[p]? = vars[p]? := by
  induction values with
  | nil => rfl
  | cons v values ih =>
    rw [List.length_cons] at h
    rw [setLast, getElem?_setFromEnd, length_setLast, if_neg (by omega), ih (by omega)]

private theorem getElem?_setLast_of_eq (hp : p + values.length = vars.length + i)
    (hv : values[i]? = some v) : (vars.setLast values)[p]? = vars[p]?.map fun b ↦ (b.1, v) := by
  induction values generalizing i with
  | nil => cases hv
  | cons w values ih =>
    rw [List.length_cons] at hp
    rw [setLast, getElem?_setFromEnd, length_setLast]
    cases i with
    | zero =>
      cases hv
      rw [if_pos (by omega), getElem?_setLast_of_lt (by omega)]
    | succ i => rw [if_neg (by omega), ih (by omega) hv]

private theorem lookup_setLast (values : List Value) (vars : Bindings) (name : String) :
    (vars.setLast values).lookup name =
      (placeOf? name vars).bind fun p ↦ (vars.setLast values)[p]?.map Prod.snd := by
  rw [lookup_eq, placeOf?_congr (names_setLast values vars)]

/-- Setting the last variables assigns those that are named if they are the last ones. -/
theorem Aligned.assigns (h : Aligned names vars) (hl : values.length = names.length) :
    Assigns names values vars (vars.setLast values) where
  reads i name v hname hv := by
    obtain ⟨p, hplace, hp⟩ := h i name hname
    rw [← hl] at hp
    rw [lookup_setLast, hplace, Option.bind_some, getElem?_setLast_of_eq hp hv,
      List.getElem?_eq_getElem (placeOf?_lt hplace)]
    rfl
  keeps p hp := by
    by_cases hlt : p + values.length < vars.length
    · exact getElem?_setLast_of_lt hlt
    · by_cases hin : p < vars.length
      · -- a place among the last ones is that of a name
        obtain ⟨i, hi⟩ : ∃ i, p + names.length = vars.length + i :=
          ⟨p + names.length - vars.length, by omega⟩
        have hname := List.getElem?_eq_getElem (l := names) (i := i) (by omega)
        obtain ⟨q, hplace, hq⟩ := h i _ hname
        obtain rfl : q = p := by omega
        exact (hp _ (List.mem_of_getElem? hname) hplace).elim
      · have hout : vars.length ≤ p := Nat.le_of_not_lt hin
        rw [List.getElem?_eq_none (by rwa [length_setLast]), List.getElem?_eq_none hout]

/-- If setting the last variables to different new values assigns the named ones, they are the last
ones. -/
theorem Assigns.aligned (h : Assigns names values vars (vars.setLast values))
    (hl : values.length = names.length) (hd : values.Nodup) (hn : ∀ b ∈ vars, b.2 ∉ values) :
    Aligned names vars := by
  intro i name hname
  have hi : i < values.length := by
    rw [hl]
    exact (List.getElem?_eq_some_iff.mp hname).1
  have hv := List.getElem?_eq_getElem hi
  have hread := h.reads i name _ hname hv
  rw [lookup_setLast, Option.bind_eq_some_iff] at hread
  obtain ⟨p, hplace, hread⟩ := hread
  have hlt := placeOf?_lt hplace
  refine ⟨p, hplace, ?_⟩
  by_cases hp : p + values.length < vars.length
  · rw [getElem?_setLast_of_lt hp, List.getElem?_eq_getElem hlt] at hread
    have hb := hn _ (List.getElem_mem hlt)
    rw [Option.some.inj hread] at hb
    exact (hb (List.getElem_mem hi)).elim
  · obtain ⟨j, hj⟩ : ∃ j, p + values.length = vars.length + j :=
      ⟨p + values.length - vars.length, by omega⟩
    have hw := List.getElem?_eq_getElem (l := values) (i := j) (by omega)
    rw [getElem?_setLast_of_eq hj hw, List.getElem?_eq_getElem hlt] at hread
    have hij := (List.getElem_inj hd).mp (Option.some.inj hread)
    omega

private theorem Aligned.congr (h : Aligned names vars) (hv : vars'.names = vars.names) :
    Aligned names vars' := by
  have hlength : vars'.length = vars.length := by
    rw [← length_names, hv, length_names]
  intro i name hname
  rw [placeOf?_congr hv, hlength]
  exact h i name hname

end Bindings

/-! ### The rounds that a loop has begun -/

namespace Rounds

variable {l : Rounds}

/-- After rounds whose bodies have ended, a loop stands in a state with elements to come: each round
begins in the state that the one before has left, without what its body has declared. -/
inductive Passes (host : Host) (l : Rounds) :
    Nat → State → List (Value × Value) → List Exchange → State → List (Value × Value) → Prop where
  | here {index : Nat} {s : State} {items : List (Value × Value)} :
      Passes host l index s items [] s items
  | round {index : Nat} {s u t : State} {key element v : Value} {rest items : List (Value × Value)}
      {log : List Exchange} :
      (Walk.start host (.walk l.body (l.dotOf element))
        (l.begin index key element rest.isEmpty (l.advance s))).Ends host (.ok v, u) →
      Passes host l (index + 1) (l.leave u) (l.refill (index + 1) rest u) log t items →
      Passes host l index s ((key, element) :: rest)
        (⟨.walk l.body (l.dotOf element), l.begin index key element rest.isEmpty (l.advance s),
          (.ok v, u)⟩ :: log) t items

/-- Rounds keep the variables that there are before them. -/
theorem Passes.names {index : Nat} {s t : State} {items items' : List (Value × Value)}
    {log : List Exchange} (h : l.Passes host index s items log t items')
    (hm : s.vars.length = l.mark) : t.vars.names = s.vars.names := by
  induction h with
  | here => rfl
  | @round _ s u _ _ _ _ _ _ _ hu _ ih =>
    have hnames : (l.leave u).vars.names = s.vars.names :=
      (names_leave (Walk.start_level hu trivial) hm :)
    rw [ih ?_, hnames]
    rw [← Bindings.length_names, hnames, Bindings.length_names, hm]

/-- What a loop asks for after a transcript is the body of the next round. -/
theorem passes_of_iterate {fuel index : Nat} {s u : State} {items : List (Value × Value)}
    {log : List Exchange} {task : Task} {next : Reply → Run (Outcome Unit × State)}
    (h : (l.iterate fuel index items s).Continues host log (.ask task u next)) :
    ∃ before key element rest,
      l.Passes host index s items log before ((key, element) :: rest) ∧
      task = .walk l.body (l.dotOf element) ∧
      u = l.begin (index + log.length) key element rest.isEmpty (l.advance before) := by
  induction fuel generalizing index s items log with
  | zero => exact (Run.not_continues_ask h).elim
  | succ fuel ih =>
    cases items with
    | nil => exact (Run.not_continues_ask h).elim
    | cons item rest =>
      obtain ⟨key, element⟩ := item
      rw [iterate_cons] at h
      cases h with
      | here => exact ⟨s, key, element, rest, .here, rfl, rfl⟩
      | @after _ _ _ r log _ hr h =>
        obtain ⟨outcome, w⟩ := r
        cases outcome with
        | error _ | panic _ => exact (Run.not_continues_ask h).elim
        | ok v =>
          obtain ⟨before, key', element', rest', hpasses, htask, hu⟩ := ih h
          refine ⟨before, key', element', rest', .round hr hpasses, htask, ?_⟩
          rw [hu, List.length_cons, Nat.add_right_comm, Nat.add_assoc]

end Rounds

/-! ### Assigned variables that are not the last ones -/

/-- A list of two texts. -/
def Value.twoTexts : Value := .list [.text "p", .text "q"] none

/-- A loop that assigns a variable below the last one overwrites the last one in its place. -/
theorem not_assigned_below :
    ∃ (s t u : State) (next : Reply → Run (Outcome Unit × State)),
      (Walk.each .empty .twoTexts [.declare "$x" "a", .declare "$y" "b"]
        (.initial .blank .twoTexts .unlimited (.initial .nil))).Ends .empty (.ok (), s) ∧
      ((Pipe.dotTo .update ["$x"]).eval .empty .twoTexts s).Ends .empty (.ok .twoTexts, t) ∧
      (Walk.loop .empty (.dotTo .update ["$x"]) [] none .twoTexts s).Continues .empty []
        (.ask (.walk [] (.text "p")) u next) ∧
      t.vars.lookup "$x" = some .twoTexts ∧ t.vars.lookup "$y" = some (.text "b") ∧
      u.vars.lookup "$x" = some .twoTexts ∧ u.vars.lookup "$y" = some (.text "p") ∧
      ¬ Bindings.Assigns ["$x"] [.text "p"] t.vars u.vars := by
  refine ⟨_, _, _, _, .value rfl, .value rfl, .here _, rfl, rfl, rfl, rfl, ?_⟩
  intro h
  cases h.reads 0 "$x" (.text "p") rfl rfl

/-- In each round a loop sets the last variables, whatever its declarations name. That assigns the
named variables, and no others, if they are the last ones in the order in which they are named; and
only then, unless what the round sets has been on the stack before or is one value twice. -/
theorem Walk.loop_sets_last {pipe : Pipe} {body : List Node} {otherwise : Option (List Node)}
    {dot v : Value} {s t u : State} {items : List (Value × Value)} {evaluation log : List Exchange}
    {task : Task} {next : Reply → Run (Outcome Unit × State)}
    (hp : (pipe.eval host dot s).Continues host evaluation (.done (.ok v, t)))
    (hi : v.indirect.elements? t.resources = some items) (hne : items ≠ [])
    (h : (loop host pipe body otherwise dot s).Continues host (evaluation ++ log)
      (.ask task u next)) :
    ∃ before key element rest,
      (Rounds.ofLoop pipe body dot v t).Passes host 0 ((Rounds.ofLoop pipe body dot v t).advance t)
        items log before ((key, element) :: rest) ∧
      task = .walk body ((Rounds.ofLoop pipe body dot v t).dotOf element) ∧
      before.vars.names = t.vars.names ∧
      let values := (Rounds.ofLoop pipe body dot v t).values before.resources.nextNumber log.length
        key element rest.isEmpty
      u.vars = before.vars.setLast values ∧
      (Bindings.Aligned pipe.variables t.vars →
        Bindings.Assigns pipe.variables values before.vars u.vars) ∧
      (values.Nodup → (∀ b ∈ before.vars, b.2 ∉ values) →
        Bindings.Assigns pipe.variables values before.vars u.vars →
          Bindings.Aligned pipe.variables t.vars) := by
  have hn : pipe.declarations.length ≤ 3 := by
    refine Nat.le_of_not_lt fun hn ↦ ?_
    obtain ⟨r, hr⟩ := loop_continues_of_many body otherwise hp hn
    exact Run.not_continues_ask (hr.rest h)
  have hrounds := (loop_continues body otherwise hp hn hi).rest h
  obtain ⟨_, hrounds⟩ | ⟨_, _, _, -, -, hrounds⟩ := hrounds.of_bind_ask
  · obtain ⟨_, hrounds⟩ | ⟨_, _, ⟨outcome, w⟩, -, -, hrounds⟩ := hrounds.of_bind_ask
    · obtain ⟨before, key, element, rest, hpasses, htask, hu⟩ := Rounds.passes_of_iterate hrounds
      have hnames : before.vars.names = t.vars.names := (hpasses.names rfl :)
      refine ⟨before, key, element, rest, hpasses, htask, hnames, ?_⟩
      intro values
      have hl : values.length = pipe.variables.length :=
        (Rounds.length_values hn ..).trans (List.length_map ..).symm
      have hvars : u.vars = before.vars.setLast values := by
        rw [hu, Nat.zero_add]
        exact Rounds.vars_begin ..
      rw [hvars]
      refine ⟨rfl, fun haligned ↦ (haligned.congr hnames).assigns hl, fun hd hnew hassigns ↦ ?_⟩
      exact (hassigns.aligned hl hd hnew).congr hnames.symm
    · -- nothing is asked for after the rounds
      cases items with
      | nil => exact (hne rfl).elim
      | cons item rest =>
        cases outcome with
        | ok _ | error _ | panic _ => exact (Run.not_continues_ask hrounds).elim
  · exact (Run.not_continues_ask hrounds).elim

private theorem last_begins :
    ∃ (s t u : State) (next : Reply → Run (Outcome Unit × State)),
      (Walk.each .empty .twoTexts [.declare "$y" "b", .declare "$x" "a"]
        (.initial .blank .twoTexts .unlimited (.initial .nil))).Ends .empty (.ok (), s) ∧
      ((Pipe.dotTo .update ["$x"]).eval .empty .twoTexts s).Continues .empty []
        (.done (.ok .twoTexts, t)) ∧
      (Walk.loop .empty (.dotTo .update ["$x"]) [] none .twoTexts s).Continues .empty []
        (.ask (.walk [] (.text "p")) u next) ∧
      t.vars = [("$", .twoTexts), ("$y", .text "b"), ("$x", .twoTexts)] :=
  ⟨_, _, _, _, .value rfl, .here _, .here _, rfl⟩

/-- A loop that assigns the last variable begins with the first element in it, and with the others
as they were. -/
theorem Walk.loop_sets_last_aligned :
    ∃ (s t u : State) (next : Reply → Run (Outcome Unit × State)),
      (Walk.each .empty .twoTexts [.declare "$y" "b", .declare "$x" "a"]
        (.initial .blank .twoTexts .unlimited (.initial .nil))).Ends .empty (.ok (), s) ∧
      (Walk.loop .empty (.dotTo .update ["$x"]) [] none .twoTexts s).Continues .empty []
        (.ask (.walk [] (.text "p")) u next) ∧
      t.vars = [("$", .twoTexts), ("$y", .text "b"), ("$x", .twoTexts)] ∧
      Bindings.Assigns ["$x"] [.text "p"] t.vars u.vars := by
  obtain ⟨s, t, u, next, hs, ht, hu, hvars⟩ := last_begins
  have haligned : Bindings.Aligned ["$x"] t.vars := by
    rw [hvars]
    intro i name hname
    cases i with
    | zero =>
      cases hname
      exact ⟨2, rfl, rfl⟩
    | succ i => cases hname
  have hitems : Value.twoTexts.indirect.elements? t.resources =
      some [(.ofNat 0, .text "p"), (.ofNat 1, .text "q")] := rfl
  obtain ⟨before, key, element, rest, hpasses, -, -, -, hassigns, -⟩ :=
    loop_sets_last ht hitems (List.cons_ne_nil _ _) hu
  refine ⟨s, t, u, next, hs, hu, hvars, ?_⟩
  cases hpasses with
  | here => exact hassigns haligned

end TextTemplate
