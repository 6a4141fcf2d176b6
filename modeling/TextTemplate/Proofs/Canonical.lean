import Mathlib.Data.List.Sort
import TextTemplate.Builtin.Collection
import TextTemplate.Builtin.Loop
import TextTemplate.Builtin.Render
import TextTemplate.Proofs.Evaluation
import TextTemplate.Proofs.KeyOrder
import TextTemplate.Render.Repeat

/-!
# Canonical maps

A map that entries are put into has under each key the value that is put there last, and its keys
ascend. Since the order of keys is total (`Key.order`), there is one such map only. So the order in
which entries are put into a map matters for those of one key alone, and whatever looks at the
entries of a map in order meets each key once (`Dict.canonical`).
-/

set_option autoImplicit false

namespace TextTemplate

variable {α : Type}

/-- The value that is given last for a key. -/
def lastGiven (es : List (Key × α)) (k : Key) : Option α := es.reverse.lookup k

private theorem lastGiven_append (es es' : List (Key × α)) (k : Key) :
    lastGiven (es ++ es') k = (lastGiven es' k).or (lastGiven es k) := by
  rw [lastGiven, List.reverse_append, List.lookup_append]
  rfl

private theorem lastGiven_cons (e : Key × α) (es : List (Key × α)) (k : Key) :
    lastGiven (e :: es) k = (lastGiven es k).or (if k = e.1 then some e.2 else none) := by
  rw [lastGiven, List.reverse_cons, List.lookup_append, ← lastGiven]
  congr 1
  rw [List.lookup_cons, List.lookup_nil]
  split
  · next h => rw [if_pos (beq_iff_eq.mp h)]
  · next h => rw [if_neg (by simpa using h)]

namespace Dict

/-! ### Single entries -/

private theorem get?_cons (e : Key × α) (rest : List (Key × α)) (k : Key) :
    get? ⟨e :: rest⟩ k = if k = e.1 then some e.2 else get? ⟨rest⟩ k := by
  rw [get?, List.find?_cons]
  split
  · next h =>
    rw [if_pos (Key.eq_of_order (eq_of_beq h))]
    rfl
  · next h =>
    rw [if_neg, get?]
    rintro rfl
    rw [Key.order_self] at h
    cases h

private theorem get?_insert (d : Dict α) (k : Key) (v : α) (k' : Key) :
    (d.insert k v).get? k' = if k' = k then some v else d.get? k' := by
  obtain ⟨entries⟩ := d
  rw [insert]
  induction entries with
  | nil => exact get?_cons (k, v) [] k'
  | cons e rest ih =>
    rw [insertEntry]
    cases h : k.order e.1 with
    | lt => exact get?_cons (k, v) (e :: rest) k'
    | eq =>
      have hk : k = e.1 := Key.eq_of_order h
      dsimp only
      rw [get?_cons, get?_cons, hk]
      split
      · rfl
      · rfl
    | gt =>
      have hk : k ≠ e.1 := (Key.ne_of_order_lt (Key.order_gt_iff.mp h)).symm
      dsimp only
      rw [get?_cons, get?_cons, ih]
      split
      · next hk' => rw [if_neg fun h ↦ hk (h.symm.trans hk')]
      · rfl

private theorem mem_insertEntry {k : Key} {v : α} {entries : List (Key × α)} {e : Key × α}
    (h : e ∈ insertEntry k v entries) : e.1 = k ∨ e ∈ entries := by
  induction entries with
  | nil => exact .inl (congrArg Prod.fst (List.mem_singleton.mp h))
  | cons e' rest ih =>
    rw [insertEntry] at h
    cases hk : k.order e'.1 with
    | lt =>
      rw [hk] at h
      obtain rfl | h := List.mem_cons.mp h
      · exact .inl rfl
      · exact .inr h
    | eq =>
      rw [hk] at h
      obtain rfl | h := List.mem_cons.mp h
      · exact .inl (Key.eq_of_order hk).symm
      · exact .inr (List.mem_cons_of_mem _ h)
    | gt =>
      rw [hk] at h
      obtain rfl | h := List.mem_cons.mp h
      · exact .inr List.mem_cons_self
      · exact (ih h).imp_right (List.mem_cons_of_mem _)

private theorem Sorted.insert {d : Dict α} (h : d.Sorted) (k : Key) (v : α) :
    (d.insert k v).Sorted := by
  obtain ⟨entries⟩ := d
  rw [Dict.insert]
  induction entries with
  | nil => exact List.pairwise_singleton ..
  | cons e rest ih =>
    obtain ⟨he, hrest⟩ := List.pairwise_cons.mp h
    rw [Sorted, insertEntry]
    cases hk : k.order e.1 with
    | lt =>
      refine List.pairwise_cons.mpr ⟨?_, h⟩
      intro e' he'
      obtain rfl | he' := List.mem_cons.mp he'
      · exact hk
      · exact Std.TransCmp.lt_trans hk (he e' he')
    | eq => exact List.pairwise_cons.mpr ⟨he, hrest⟩
    | gt =>
      refine List.pairwise_cons.mpr ⟨?_, ih hrest⟩
      intro e' he'
      obtain hk' | he' := mem_insertEntry he'
      · rw [hk']
        exact Key.order_gt_iff.mp hk
      · exact he e' he'

private theorem sorted_empty : (empty : Dict α).Sorted := List.Pairwise.nil

/-! ### Entries in order -/

/-- What was given last for a key is found, or else what was there before. -/
theorem get?_insertAll (d : Dict α) (es : List (Key × α)) (k : Key) :
    (d.insertAll es).get? k = (lastGiven es k).or (d.get? k) := by
  rw [insertAll]
  induction es generalizing d with
  | nil => rfl
  | cons e es ih =>
    rw [List.foldl_cons, ih, get?_insert, lastGiven_cons, Option.or_assoc]
    congr 1
    split
    · rfl
    · rfl

/-- Insertions keep a map sorted. -/
theorem Sorted.insertAll {d : Dict α} (h : d.Sorted) (es : List (Key × α)) :
    (d.insertAll es).Sorted := by
  rw [Dict.insertAll]
  induction es generalizing d with
  | nil => exact h
  | cons e es ih => exact ih (h.insert e.1 e.2)

private theorem get?_eq_none_of_lt {k : Key} {rest : List (Key × α)}
    (h : ∀ e ∈ rest, k.order e.1 = .lt) : get? ⟨rest⟩ k = none := by
  induction rest with
  | nil => rfl
  | cons e rest ih =>
    obtain ⟨he, hrest⟩ := List.forall_mem_cons.mp h
    rw [get?_cons, if_neg (Key.ne_of_order_lt he), ih hrest]

/-- The entries of a sorted map are what its keys stand for. -/
theorem Sorted.mem_iff {d : Dict α} (h : d.Sorted) (k : Key) (v : α) :
    (k, v) ∈ d.entries ↔ d.get? k = some v := by
  obtain ⟨entries⟩ := d
  induction entries with
  | nil => exact ⟨fun hm ↦ (nomatch hm), fun hm ↦ (nomatch hm)⟩
  | cons e rest ih =>
    obtain ⟨he, hrest⟩ := List.pairwise_cons.mp h
    have hmem : (k, v) ∈ rest ↔ get? ⟨rest⟩ k = some v := ih hrest
    rw [get?_cons]
    show (k, v) ∈ e :: rest ↔ _
    rw [List.mem_cons, hmem]
    split
    · next hk =>
      -- no later entry has the key
      rw [hk, get?_eq_none_of_lt he, Option.some.injEq]
      constructor
      · rintro (hkv | hv)
        · exact (congrArg Prod.snd hkv).symm
        · cases hv
      · rintro rfl
        exact .inl rfl
    · next hk =>
      exact or_iff_right fun hkv ↦ hk (congrArg Prod.fst hkv)

private theorem Sorted.keys_nodup {d : Dict α} (h : d.Sorted) : (d.entries.map Prod.fst).Nodup := by
  rw [List.Nodup, List.pairwise_map]
  apply List.Pairwise.imp _ h
  intro a b hab
  exact Key.ne_of_order_lt hab

/-- Sorted maps that have the same under each key are equal. -/
theorem Sorted.ext {d d' : Dict α} (h : d.Sorted) (h' : d'.Sorted)
    (hget : ∀ k, d.get? k = d'.get? k) : d = d' := by
  have irrefl : Std.Irrefl fun a b : Key × α ↦ a.1.order b.1 = .lt :=
    ⟨fun a ha ↦ Key.ne_of_order_lt ha rfl⟩
  have antisymm : Std.Antisymm fun a b : Key × α ↦ a.1.order b.1 = .lt := by
    refine ⟨fun a b hab hba ↦ ?_⟩
    cases (Key.order_gt_iff.mpr hab).symm.trans hba
  have hentries : d.entries = d'.entries := by
    apply List.Pairwise.eq_of_mem_iff h h'
    rintro ⟨k, v⟩
    rw [h.mem_iff, h'.mem_iff, hget]
  obtain ⟨entries⟩ := d
  exact congrArg mk hentries

/-- What is put into a sorted map last counts, in whatever order the rest is put there. -/
theorem Sorted.insertAll_congr {d : Dict α} (h : d.Sorted) {es es' : List (Key × α)}
    (hes : ∀ k, lastGiven es k = lastGiven es' k) : d.insertAll es = d.insertAll es' := by
  apply (h.insertAll es).ext (h.insertAll es')
  intro k
  rw [get?_insertAll, get?_insertAll, hes]

private theorem get?_ofList (es : List (Key × α)) (k : Key) :
    (ofList es).get? k = lastGiven es k := by
  have hnone : (empty : Dict α).get? k = none := rfl
  rw [ofList, get?_insertAll, hnone, Option.or_none]

private theorem sorted_ofList (es : List (Key × α)) :
    (ofList es).Sorted :=
  sorted_empty.insertAll es

private theorem insertAll_append (d : Dict α) (es es' : List (Key × α)) :
    d.insertAll (es ++ es') = (d.insertAll es).insertAll es' := by
  rw [insertAll, List.foldl_append]
  rfl

end Dict

/-! ### Visits in order -/

/-- What is done with the elements of a list, numbered from `index`: one after the other, with
whether it is the last. -/
def visits {β : Type} (f : Nat → α → Bool → β) (index : Nat) (items : List α) : List β :=
  items.mapIdx fun i a ↦ f (index + i) a (i + 1 == items.length)

private theorem visits_cons {β : Type} (f : Nat → α → Bool → β) (index : Nat) (a : α)
    (rest : List α) :
    visits f index (a :: rest) = f index a rest.isEmpty :: visits f (index + 1) rest := by
  have hlast : (0 + 1 == (a :: rest).length) = rest.isEmpty := by
    cases rest with
    | nil | cons _ _ => rfl
  have hnumber (i : Nat) : index + (i + 1) = index + 1 + i := by omega
  have hnext (i : Nat) : (i + 1 + 1 == (a :: rest).length) = (i + 1 == rest.length) := by
    rw [Bool.eq_iff_iff, beq_iff_eq, beq_iff_eq, List.length_cons, Nat.add_right_cancel_iff]
  rw [visits, List.mapIdx_cons, hlast, visits]
  congr 2
  funext i b
  rw [hnumber, hnext]

private theorem visits_map {β γ : Type} (f : Nat → β → Bool → γ) (g : α → β) (index : Nat)
    (items : List α) :
    visits f index (items.map g) = visits (fun i a last ↦ f i (g a) last) index items := by
  induction items generalizing index with
  | nil => rfl
  | cons a rest ih => rw [List.map_cons, visits_cons, visits_cons, ih, List.isEmpty_map]

/-- Steps one after the other. -/
def Walk.inTurn : List (Walk Unit) → Walk Unit
  | [] => return ()
  | m :: rest => do
    m
    inTurn rest

private theorem Rounds.pairs_eq_visits (l : Rounds) (items : List (Value × Value)) (index : Nat) :
    l.pairs index items =
      .inTurn (visits (fun i p last ↦ l.round i p.1 p.2 last) index items) := by
  induction items generalizing index with
  | nil => rfl
  | cons item rest ih => rw [pairs, visits_cons, Walk.inTurn, ih]

private theorem Loop.Frame.rounds_eq_visits (f : Loop.Frame) (items : List (Value × Value))
    (index : Nat) : f.rounds index items =
      (visits (fun i p last ↦ f.round i p.1 p.2 last) index items).foldr
        (fun round next ↦ round next) (.done .nothing) := by
  induction items generalizing index with
  | nil => rfl
  | cons item rest ih => rw [rounds, visits_cons, List.foldr_cons, ih]

private theorem Value.entryTexts_eq_map (entries : List (Key × Value)) :
    Value.entryTexts entries = entries.map fun e ↦ e.1.print ++ ":" ++ e.2.textWith nilText := by
  induction entries with
  | nil => rfl
  | cons e rest ih => rw [Value.entryTexts, ih, List.map_cons]

/-! ### The local data -/

/-- The entries that calls of `set` with some arguments put into the local data. -/
def RenderFunction.entriesSet : List (List Value) → Except EvalError (List (Key × Value))
  | [] => .ok []
  | args :: rest => do
    let es ← localEntries args
    return es ++ (← entriesSet rest)

/-- A state with entries put into the local data. -/
def State.putLocal (s : State) (es : List (Key × Value)) : State :=
  { s with resources := s.resources.updateStore s.exec.store (·.insertAll es) }

/-- The local data is then what it was, with the entries inserted. -/
theorem State.store_putLocal {s : State} {d : Dict Value}
    (hd : s.resources.stores[s.exec.store]? = some d) (es : List (Key × Value)) :
    (s.putLocal es).resources.stores[s.exec.store]? = some (d.insertAll es) := by
  rw [putLocal, Resources.updateStore]
  simp only [Array.getElem?_modify, if_true, hd]
  rfl

private theorem State.putLocal_nil (s : State) : s.putLocal [] = s := by
  have hstores : s.resources.stores.modify s.exec.store (fun d ↦ d.insertAll []) =
      s.resources.stores := by
    apply Array.ext_getElem?
    intro i
    rw [Array.getElem?_modify]
    split
    · exact Option.map_id'
    · rfl
  rw [putLocal, Resources.updateStore, hstores]

private theorem State.putLocal_append (s : State) (es es' : List (Key × Value)) :
    s.putLocal (es ++ es') = (s.putLocal es).putLocal es' := by
  have hstores : s.resources.stores.modify s.exec.store (fun d ↦ d.insertAll (es ++ es')) =
      (s.resources.stores.modify s.exec.store (fun d ↦ d.insertAll es)).modify s.exec.store
        (fun d ↦ d.insertAll es') := by
    apply Array.ext_getElem?
    intro i
    simp only [Array.getElem?_modify]
    split
    · rw [Option.map_map]
      congr 1
      funext d
      exact d.insertAll_append es es'
    · rfl
  rw [putLocal, putLocal, putLocal, Resources.updateStore, Resources.updateStore,
    Resources.updateStore, hstores]

/-- Entries with the same last values leave the same sorted local data. -/
theorem State.putLocal_congr {s : State} (h : (s.resources.store s.exec.store).Sorted)
    {es es' : List (Key × Value)} (hes : ∀ k, lastGiven es k = lastGiven es' k) :
    s.putLocal es = s.putLocal es' := by
  have hstores : s.resources.stores.modify s.exec.store (fun d ↦ d.insertAll es) =
      s.resources.stores.modify s.exec.store (fun d ↦ d.insertAll es') := by
    apply Array.ext_getElem?
    intro i
    simp only [Array.getElem?_modify]
    split
    · next hi =>
      subst hi
      cases hd : s.resources.stores[s.exec.store]? with
      | none => rfl
      | some d =>
        have hsorted : d.Sorted := by
          rw [Resources.store, Array.getD_eq_getD_getElem?, hd] at h
          exact h
        exact congrArg some (hsorted.insertAll_congr hes)
    · rfl
  rw [putLocal, putLocal, Resources.updateStore, Resources.updateStore, hstores]

/-- With keys and values in turn, `set` puts the entries into the local data. -/
theorem RenderFunction.set_eq {args : List Value} {es : List (Key × Value)}
    (heven : args.length % 2 = 0) (hes : localEntries args = .ok es) :
    set args = .updateStore (·.insertAll es) (.done .nothing) := by
  rw [set, if_neg (not_not.mpr heven), hes]

/-- Calls of `set` put their entries into the local data, one call after the other. -/
theorem Walk.sets_eq (host : Host) {calls : List (List Value)} {es : List (Key × Value)}
    (heven : ∀ args ∈ calls, args.length % 2 = 0)
    (hes : RenderFunction.entriesSet calls = .ok es) (s : State) :
    Walk.inTurn (calls.map fun args ↦ do let _ ← Walk.program host (RenderFunction.set args)) s =
      .done (.ok (), s.putLocal es) := by
  induction calls generalizing s es with
  | nil =>
    cases hes
    rw [s.putLocal_nil]
    rfl
  | cons args rest ih =>
    obtain ⟨hargs, hrest⟩ := List.forall_mem_cons.mp heven
    cases hfirst : RenderFunction.localEntries args with
    | error e =>
      rw [RenderFunction.entriesSet, hfirst] at hes
      cases hes
    | ok first =>
      cases hlater : RenderFunction.entriesSet rest with
      | error e =>
        rw [RenderFunction.entriesSet, hfirst, hlater] at hes
        cases hes
      | ok later =>
        rw [RenderFunction.entriesSet, hfirst, hlater] at hes
        cases hes
        rw [s.putLocal_append, ← ih hrest hlater (s.putLocal first), List.map_cons, inTurn,
          RenderFunction.set_eq hargs hfirst]
        rfl

/-! ### One map for all orders -/

namespace Dict

/-- A map has, in ascending order, each key once with what was given last for it; and what looks at
its entries in order visits each of them once: a loop, a loop over a callback, and the printed
form. -/
structure Canonical (d : Dict Value) (es : List (Key × Value)) : Prop where
  ascending : d.entries.Pairwise fun a b ↦ a.1.order b.1 = .lt
  nodup : (d.entries.map Prod.fst).Nodup
  mem_iff : ∀ k v, (k, v) ∈ d.entries ↔ lastGiven es k = some v
  range : ∀ cell, Walk.rounds? (.map d cell) = some fun l ↦ do
    Walk.inTurn (visits (fun i e last ↦ l.round i (.ofKey e.1) e.2 last) 0 d.entries)
    return !d.entries.isEmpty
  callback : ∀ cell handle data extra,
    Loop.program (data :: .block handle :: .map d cell :: extra) =
      (visits (fun i e last ↦
        (Loop.Frame.mk handle (.map d cell) data extra).round i (.ofKey e.1) e.2 last) 0
          d.entries).foldr (fun round next ↦ round next) (.done .nothing)
  print : ∀ cell absent, (Value.map d cell).textWith absent =
    "map[" ++ " ".intercalate (d.entries.map fun e ↦ e.1.print ++ ":" ++ e.2.textWith nilText) ++
      "]"

private theorem Sorted.canonical_of_get? {d : Dict Value} (h : d.Sorted) {es : List (Key × Value)}
    (hes : ∀ k, d.get? k = lastGiven es k) : d.Canonical es where
  ascending := h
  nodup := h.keys_nodup
  mem_iff k v := by rw [h.mem_iff, hes]
  range cell := by
    rw [Walk.rounds?]
    simp only [Rounds.pairs_eq_visits, visits_map, List.isEmpty_map]
  callback cell handle data extra := by
    apply (Loop.Frame.rounds_eq_visits ..).trans
    rw [visits_map]
    rfl
  print cell absent := by
    obtain ⟨entries⟩ := d
    rw [Value.textWith, Value.entryTexts_eq_map]

/-- A sorted map has what its entries give. -/
theorem Sorted.lastGiven_entries {d : Dict α} (h : d.Sorted) (k : Key) :
    lastGiven d.entries k = d.get? k := by
  obtain ⟨entries⟩ := d
  induction entries with
  | nil => rfl
  | cons e rest ih =>
    obtain ⟨he, hrest⟩ := List.pairwise_cons.mp h
    have hlast : lastGiven rest k = get? ⟨rest⟩ k := ih hrest
    rw [get?_cons, lastGiven_cons, hlast]
    split
    · next hk =>
      rw [hk, get?_eq_none_of_lt he]
      rfl
    · exact Option.or_none

/-- Maps are canonical: the values that are given last for the keys decide what a map is that
entries are put into, in whatever order that happens and whether it is a new map, the result of the
functions `map` and `dict`, or the local data, which is afterwards what it was with the entries
inserted. -/
theorem canonical {es es' : List (Key × Value)} (h : ∀ k, lastGiven es k = lastGiven es' k) :
    (ofList es).Canonical es ∧ ofList es = ofList es' ∧
      (∀ d : Dict Value, d.Sorted →
        (d.insertAll es).Canonical (d.entries ++ es) ∧ d.insertAll es = d.insertAll es') ∧
      (∀ args, args.length % 2 = 0 → Argument.pairs args = .ok es' →
        Collection.map args = .ok (.map (ofList es) none) ∧
          Collection.dict args = .ok (.map (ofList es) none)) ∧
      ∀ (host : Host) (s : State) (calls : List (List Value)),
        (s.resources.store s.exec.store).Sorted → (∀ args ∈ calls, args.length % 2 = 0) →
          RenderFunction.entriesSet calls = .ok es' →
            Walk.inTurn
                (calls.map fun args ↦ do let _ ← Walk.program host (RenderFunction.set args)) s =
              .done (.ok (), s.putLocal es) ∧
            ∀ d, s.resources.stores[s.exec.store]? = some d →
              (s.putLocal es).resources.stores[s.exec.store]? = some (d.insertAll es) := by
  refine ⟨(sorted_ofList es).canonical_of_get? (get?_ofList es), sorted_empty.insertAll_congr h,
    fun d hd ↦ ⟨?_, hd.insertAll_congr h⟩, ?_, ?_⟩
  · apply (hd.insertAll es).canonical_of_get?
    intro k
    rw [get?_insertAll, lastGiven_append, hd.lastGiven_entries]
  · intro args heven hpairs
    rw [Collection.map, Collection.dict, if_neg (not_not.mpr heven), if_neg (not_not.mpr heven),
      hpairs, ofList, sorted_empty.insertAll_congr h]
    exact ⟨rfl, rfl⟩
  · intro host s calls hs heven hcalls
    refine ⟨?_, fun d hd ↦ State.store_putLocal hd es⟩
    rw [Walk.sets_eq host heven hcalls, State.putLocal_congr hs h]

/-- Entries whose keys are one number in three kinds, of which one is given twice. -/
private def ones : List (Key × Value) :=
  [(.int 1, .text "a"), (.float ⟨0x3FF0000000000000⟩, .text "b"), (.uint 1, .text "c"),
    (.int 1, .text "d")]

/-- The entries that count, in another order. -/
private def onesMixed : List (Key × Value) :=
  [(.uint 1, .text "c"), (.int 1, .text "d"), (.float ⟨0x3FF0000000000000⟩, .text "b")]

/-- Keys of one number in three kinds are three keys, in whatever order they are given. -/
theorem canonical_ones :
    (∀ k, lastGiven ones k = lastGiven onesMixed k) ∧ (ofList ones).Canonical ones ∧
      ofList ones = ofList onesMixed ∧
      (Value.map (ofList ones) none).print = "map[1:d 1:c 1:b]" := by
  have hlast (k : Key) : lastGiven ones k = lastGiven onesMixed k := by
    rw [← get?_ofList, ← get?_ofList]
    rfl
  obtain ⟨hcanonical, heq, -⟩ := canonical hlast
  exact ⟨hlast, hcanonical, heq, by decide +kernel⟩

end Dict

end TextTemplate
