import TextTemplate.Proofs.Answering
import TextTemplate.Proofs.Canonical

/-!
# Local data

The function `set` stores all of its pairs in the local data or none (`RenderFunction.set_stores`):
a key that cannot be one, at whatever place, leaves the data as it was. Afterwards `get` finds what
was given last for a key, and what was there before for the others.
-/

set_option autoImplicit false

namespace TextTemplate.RenderFunction

variable {host : Host} {s : State} {d : Dict Value} {args rest : List Value} {k v : Value}
  {key : Key} {es : List (Key × Value)}

/-! ### Keys and values -/

/-- Arguments are keys and values in turn. -/
inductive Pairs : List Value → List (Key × Value) → Prop where
  | nil : Pairs [] []
  | cons {k v : Value} {key : Key} {rest : List Value} {es : List (Key × Value)} :
      k.toKey? = some key → Pairs rest es → Pairs (k :: v :: rest) ((key, v) :: es)

/-- Arguments that cannot be stored: none, an odd number of them, or with a value at the place of a
key that cannot be one. -/
def Refused (args : List Value) : Prop :=
  args = [] ∨ args.length % 2 = 1 ∨ ∃ i k, args[2 * i]? = some k ∧ k.toKey? = none

private theorem localEntries_of_pairs (h : Pairs args es) : localEntries args = .ok es := by
  induction h with
  | nil => rfl
  | cons hk _ ih =>
    rw [localEntries, localKey, hk, ih]
    rfl

/-- Entries are read off pairs only. -/
theorem pairs_of_localEntries : ∀ (args : List Value) (es : List (Key × Value)),
    args.length % 2 = 0 → localEntries args = .ok es → Pairs args es
  | [], _, _, h => by
    cases h
    exact .nil
  | [_], _, hodd, _ => by cases hodd
  | k :: v :: rest, es, heven, h => by
    have hrest : rest.length % 2 = 0 := by
      rw [List.length_cons, List.length_cons] at heven
      omega
    rw [localEntries, localKey] at h
    cases hkey : k.toKey? with
    | none =>
      rw [hkey] at h
      cases h
    | some key =>
      cases hes : localEntries rest with
      | error e =>
        rw [hkey, hes] at h
        cases h
      | ok es =>
        rw [hkey, hes] at h
        cases h
        exact .cons hkey (pairs_of_localEntries rest es hrest hes)

private theorem Pairs.even (h : Pairs args es) : args.length % 2 = 0 := by
  induction h with
  | nil => rfl
  | cons _ _ ih =>
    rw [List.length_cons, List.length_cons]
    omega

/-- What stands at the place of a key is one. -/
theorem Pairs.isKey (h : Pairs args es) {i : Nat} (hi : args[2 * i]? = some k) :
    ∃ key, k.toKey? = some key := by
  induction h generalizing i with
  | nil => cases hi
  | cons hk _ ih =>
    cases i with
    | zero =>
      cases hi
      exact ⟨_, hk⟩
    | succ i => exact ih hi

/-- Arguments are pairs unless there is something wrong with them. -/
theorem exists_pairs : ∀ args : List Value, args.length % 2 = 0 →
    (∀ i k, args[2 * i]? = some k → k.toKey? ≠ none) → ∃ es, Pairs args es
  | [], _, _ => ⟨[], .nil⟩
  | [_], hodd, _ => by cases hodd
  | k :: v :: rest, heven, hkeys => by
    obtain ⟨key, hkey⟩ := Option.ne_none_iff_exists'.mp (hkeys 0 k rfl)
    have hrest : rest.length % 2 = 0 := by
      rw [List.length_cons, List.length_cons] at heven
      omega
    obtain ⟨es, hes⟩ := exists_pairs rest hrest fun i k hi ↦ hkeys (i + 1) k hi
    exact ⟨(key, v) :: es, .cons hkey hes⟩

private theorem refused_or_pairs (args : List Value) :
    Refused args ∨ args ≠ [] ∧ ∃ es, Pairs args es := by
  by_cases hnone : args = []
  · exact .inl (.inl hnone)
  by_cases hodd : args.length % 2 = 1
  · exact .inl (.inr (.inl hodd))
  by_cases hkeys : ∃ i k, args[2 * i]? = some k ∧ k.toKey? = none
  · exact .inl (.inr (.inr hkeys))
  · refine .inr ⟨hnone, exists_pairs args (by omega) fun i k hi hk ↦ hkeys ⟨i, k, hi, hk⟩⟩

private theorem not_refused_of_pairs (hne : args ≠ []) (h : Pairs args es) : ¬ Refused args := by
  rintro (hnone | hodd | ⟨i, k, hi, hk⟩)
  · exact hne hnone
  · have := h.even
    omega
  · obtain ⟨key, hkey⟩ := h.isKey hi
    rw [hk] at hkey
    cases hkey

/-! ### Storing -/

/-- Arguments that cannot be stored leave everything as it was. -/
theorem run_set_of_refused (h : Refused args) (host : Host) (s : State) :
    ∃ e, Builtin.run host .set args s = .done (.error e, s) := by
  cases haccepts : (Builtin.arity .set).accepts args.length with
  | false => exact ⟨_, Builtin.run_of_refused haccepts host s⟩
  | true =>
    rw [Builtin.run_of_accepts haccepts]
    show ∃ e, Walk.program host (set args) s = _
    rw [set]
    split
    · exact ⟨_, rfl⟩
    · next heven =>
      cases hes : localEntries args with
      | error e => exact ⟨e, rfl⟩
      | ok es =>
        have hne : args ≠ [] := by
          rintro rfl
          cases haccepts
        have hpairs := pairs_of_localEntries args es (not_not.mp heven) hes
        exact absurd h (not_refused_of_pairs hne hpairs)

/-- Pairs are put into the local data, and nothing else changes. -/
theorem run_set_of_pairs (hne : args ≠ []) (h : Pairs args es) (host : Host) (s : State) :
    Builtin.run host .set args s = .done (.ok .nothing, s.putLocal es) := by
  have htwo : 2 ≤ args.length := by
    have hpos := List.length_pos_iff.mpr hne
    have heven := h.even
    omega
  have haccepts : (Builtin.arity .set).accepts args.length = true := decide_eq_true htwo
  rw [Builtin.run_of_accepts haccepts]
  show Walk.program host (set args) s = _
  rw [set_eq h.even (localEntries_of_pairs h)]
  rfl

/-! ### Looking up -/

private theorem store_eq (hd : s.resources.stores[s.exec.store]? = some d) :
    s.resources.store s.exec.store = d := by
  rw [Resources.store, Array.getD_eq_getD_getElem?, hd]
  rfl

/-- A lookup gives the value under the key of its argument and changes nothing. -/
theorem run_get_key (hk : k.toKey? = some key) (hd : s.resources.stores[s.exec.store]? = some d)
    (host : Host) :
    Builtin.run host .get [k] s = .done (.ok (.single ((d.get? key).getD .invalid)), s) := by
  have hget : get [k] =
      .view fun view ↦ .done (.single ((view.store.get? key).getD .invalid)) := by
    rw [get, localKey, hk]
  rw [Builtin.run_of_accepts rfl, ← store_eq hd]
  show Walk.program host (get [k]) s = _
  rw [hget]
  rfl

/-- Without a key all of the local data is given. -/
theorem run_get_all (hd : s.resources.stores[s.exec.store]? = some d) (host : Host) :
    Builtin.run host .get [] s = .done (.ok (.single (.map d none)), s) := by
  rw [Builtin.run_of_accepts rfl, ← store_eq hd]
  rfl

/-- A call of `set` with pairs: what it stores, and what `get` then finds. -/
structure Stored (host : Host) (s : State) (d : Dict Value) (args : List Value)
    (es : List (Key × Value)) : Prop where
  set : Builtin.run host .set args s = .done (.ok .nothing, s.putLocal es)
  store : (s.putLocal es).resources.stores[s.exec.store]? = some (d.insertAll es)
  /-- The value that is given last for a key, or else the one that was there before. -/
  get (k : Value) (key : Key) : k.toKey? = some key →
    Builtin.run host .get [k] (s.putLocal es) =
      .done (.ok (.single (((lastGiven es key).or (d.get? key)).getD .invalid)), s.putLocal es)
  getAll : Builtin.run host .get [] (s.putLocal es) =
    .done (.ok (.single (.map (d.insertAll es) none)), s.putLocal es)
  sorted : d.Sorted → (d.insertAll es).Sorted

private theorem stored_of_pairs (hne : args ≠ []) (h : Pairs args es) (host : Host)
    (hd : s.resources.stores[s.exec.store]? = some d) : Stored host s d args es where
  set := run_set_of_pairs hne h host s
  store := State.store_putLocal hd es
  get k key hk := by
    rw [← Dict.get?_insertAll]
    exact run_get_key hk (State.store_putLocal hd es) host
  getAll := run_get_all (State.store_putLocal hd es) host
  sorted hsorted := hsorted.insertAll es

/-- Arguments are stored as a whole or not at all. -/
theorem set_stores (host : Host) (hd : s.resources.stores[s.exec.store]? = some d)
    (args : List Value) :
    ((∃ e, Builtin.run host .set args s = .done (.error e, s)) ↔ Refused args) ∧
      (¬ Refused args → ∃ es, Pairs args es ∧ Stored host s d args es) := by
  have hpairs (h : ¬ Refused args) : ∃ es, Pairs args es ∧ Stored host s d args es := by
    obtain hrefused | ⟨hne, es, hes⟩ := refused_or_pairs args
    · exact absurd hrefused h
    · exact ⟨es, hes, stored_of_pairs hne hes host hd⟩
  refine ⟨⟨fun ⟨e, he⟩ ↦ ?_, fun h ↦ run_set_of_refused h host s⟩, hpairs⟩
  by_contra h
  obtain ⟨es, -, hstored⟩ := hpairs h
  rw [hstored.set] at he
  cases he

/-- A render with nothing in its local data. -/
private def storing : State :=
  .initial .blank .invalid .unlimited (Resources.initial .nil).newStore.2

/-- A key that is given twice, the second time in an optional, has the value that is given last, and
a list at the place of a key keeps all pairs from being stored. -/
theorem set_stores_last :
    (∃ u, Builtin.run .empty .set
        [.text "a", .int 1, .int 1, .int 2, .some (.text "a") none, .int 3, .uint 1, .int 4]
        storing =
          .done (.ok .nothing, u) ∧
      Builtin.run .empty .get [.text "a"] u = .done (.ok (.single (.int 3)), u) ∧
      Builtin.run .empty .get [.some (.int 1) none] u = .done (.ok (.single (.int 2)), u)) ∧
    ∃ e, Builtin.run .empty .set [.text "a", .int 1, .list [] none, .int 2] storing =
      .done (.error e, storing) := by
  have hd : storing.resources.stores[storing.exec.store]? = some .empty := rfl
  refine ⟨?_, ?_⟩
  · have hpairs : Pairs
        [.text "a", .int 1, .int 1, .int 2, .some (.text "a") none, .int 3, .uint 1, .int 4]
        [(.text "a", .int 1), (.int 1, .int 2), (.text "a", .int 3), (.uint 1, .int 4)] :=
      .cons rfl (.cons rfl (.cons rfl (.cons rfl .nil)))
    obtain ⟨es, hes, hstored⟩ :=
      (set_stores .empty hd _).2 (not_refused_of_pairs (List.cons_ne_nil _ _) hpairs)
    obtain rfl := Except.ok.inj
      ((localEntries_of_pairs hpairs).symm.trans (localEntries_of_pairs hes))
    exact ⟨_, hstored.set, hstored.get _ (.text "a") rfl, hstored.get _ (.int 1) rfl⟩
  · exact (set_stores .empty hd _).1.mpr (.inr (.inr ⟨1, .list [] none, rfl, rfl⟩))

end TextTemplate.RenderFunction
