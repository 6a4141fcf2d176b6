import TextTemplate.Program.Call

/-!
# Linked resources

Two renders of one template may have their local data in different stores. A link tells which store
of the one corresponds to which of the other: a given one to a given one, and those that are made
from then on in turn. What plain computations do neither depends on the stores nor changes them, so
they keep resources linked (`Plain.run_leavesStores`).
-/

set_option autoImplicit false

namespace TextTemplate

variable {α β : Type} {host : Host}

/-- Which stores of two renders correspond: two that there are at the start, and those that are made
later. -/
structure Link where
  left : Nat
  right : Nat
  /-- The number of stores at the start. -/
  leftSize : Nat
  rightSize : Nat
  left_lt : left < leftSize
  right_lt : right < rightSize

namespace Link

variable (l : Link) {a b a' b' : Nat}

/-- Two stores correspond. -/
def Joins (a b : Nat) : Prop :=
  a = l.left ∧ b = l.right ∨ ∃ n, a = l.leftSize + n ∧ b = l.rightSize + n

/-- A link joins its two stores. -/
theorem joins_first : l.Joins l.left l.right := .inl ⟨rfl, rfl⟩

variable {l}

/-- Each store corresponds to one. -/
theorem Joins.eq_iff (h : l.Joins a b) (h' : l.Joins a' b') : a = a' ↔ b = b' := by
  have := l.left_lt
  have := l.right_lt
  rcases h with ⟨rfl, rfl⟩ | ⟨n, rfl, rfl⟩ <;> rcases h' with ⟨rfl, rfl⟩ | ⟨n', rfl, rfl⟩ <;> omega

/-- The link of a store of each of two renders that have the same number of them. -/
def ofStores {a b size : Nat} (ha : a < size) (hb : b < size) : Link := ⟨a, b, size, size, ha, hb⟩

private theorem joins_ofStores {size : Nat} {ha : a < size} {hb : b < size}
    (h : (ofStores ha hb).Joins a' b') :
    a' = a ∧ b' = b ∨ ∃ n, a' = size + n ∧ b' = size + n := h

/-- The link of a store and one that is made in addition. -/
def ofNewStore {a size : Nat} (ha : a < size) : Link :=
  ⟨a, size, size, size + 1, ha, Nat.lt_succ_self size⟩

private theorem joins_ofNewStore {size : Nat} {ha : a < size} (h : (ofNewStore ha).Joins a' b') :
    a' = a ∧ b' = size ∨ ∃ n, a' = size + n ∧ b' = size + 1 + n := h

/-- The link of every store to itself. -/
def same : Link := ⟨0, 0, 1, 1, Nat.zero_lt_one, Nat.zero_lt_one⟩

/-- The link of all stores with themselves joins each with itself. -/
theorem joins_same (a : Nat) : same.Joins a a := by
  cases a with
  | zero => exact joins_first same
  | succ n => exact .inr ⟨n, Nat.add_comm n 1, Nat.add_comm n 1⟩

end Link

namespace Resources

/-- Two resources differ in stores alone, and corresponding stores have the same content. -/
structure Linked (l : Link) (r r' : Resources) : Prop where
  channels : r'.channels = r.channels
  nextNumber : r'.nextNumber = r.nextNumber
  hostState : r'.hostState = r.hostState
  sizes : ∃ n, r.stores.size = l.leftSize + n ∧ r'.stores.size = l.rightSize + n
  stores : ∀ a b, l.Joins a b → r'.stores[b]? = r.stores[a]?

namespace Linked

variable {l : Link} {r r' : Resources} {a b : Nat}

/-- Linked resources have the same in stores that are joined. -/
theorem store (h : r.Linked l r') (hj : l.Joins a b) : r'.store b = r.store a := by
  rw [Resources.store, Resources.store, Array.getD_eq_getD_getElem?, Array.getD_eq_getD_getElem?,
    h.stores a b hj]

/-- Linked resources have the same items in channels. -/
theorem queued (h : r.Linked l r') : r'.queued = r.queued := by
  funext channel
  rw [Resources.queued, Resources.queued, queue, queue, h.channels]

/-- A store that is made corresponds to one that is made. -/
theorem newStore (h : r.Linked l r') :
    l.Joins r.newStore.1 r'.newStore.1 ∧ r.newStore.2.Linked l r'.newStore.2 := by
  obtain ⟨n, hn, hn'⟩ := h.sizes
  have hnew : l.Joins r.stores.size r'.stores.size := .inr ⟨n, hn, hn'⟩
  refine ⟨hnew, h.channels, h.nextNumber, h.hostState, ⟨n + 1, ?_, ?_⟩, ?_⟩
  · rw [Resources.newStore, Array.size_push, hn, Nat.add_assoc]
  · rw [Resources.newStore, Array.size_push, hn', Nat.add_assoc]
  · intro a b hj
    rw [Resources.newStore, Resources.newStore, Array.getElem?_push, Array.getElem?_push,
      h.stores a b hj]
    simp only [hj.eq_iff hnew]

/-- Resources stay linked where joined stores change alike. -/
theorem updateStore (h : r.Linked l r') (hj : l.Joins a b) (f : Dict Value → Dict Value) :
    (r.updateStore a f).Linked l (r'.updateStore b f) := by
  obtain ⟨n, hn, hn'⟩ := h.sizes
  refine ⟨h.channels, h.nextNumber, h.hostState, ⟨n, ?_, ?_⟩, ?_⟩
  · rw [Resources.updateStore, Array.size_modify, hn]
  · rw [Resources.updateStore, Array.size_modify, hn']
  · intro a' b' hj'
    rw [Resources.updateStore, Resources.updateStore, Array.getElem?_modify, Array.getElem?_modify,
      h.stores a' b' hj']
    simp only [hj.eq_iff hj']

/-- Where every store corresponds to itself, linked resources are the same. -/
theorem eq_of_same (h : r.Linked .same r') : r' = r := by
  have hstores : r'.stores = r.stores := Array.ext_getElem? fun a ↦ h.stores a a (Link.joins_same a)
  obtain ⟨channels, stores, nextNumber, hostState⟩ := r'
  obtain ⟨hc, hn, hh, -, -⟩ := h
  cases hc
  cases hn
  cases hh
  cases hstores
  rfl

end Linked

section

variable {r : Resources} {a b : Nat}

/-- Resources with a store are linked with themselves. -/
theorem linked_same (h : 0 < r.stores.size) : r.Linked .same r := by
  refine ⟨rfl, rfl, rfl, ⟨r.stores.size - 1, ?_, ?_⟩, ?_⟩
  · exact (Nat.add_sub_cancel' h).symm
  · exact (Nat.add_sub_cancel' h).symm
  · intro a b hj
    obtain ⟨rfl, rfl⟩ | ⟨n, rfl, rfl⟩ := hj
    · rfl
    · rfl

private theorem getElem?_stores (hb : b < r.stores.size) : r.stores[b]? = some (r.store b) := by
  rw [store, Array.getD_eq_getD_getElem?, Array.getElem?_eq_getElem hb]
  rfl

/-- Resources in which one store gets the content of another one are linked to what they were. -/
theorem linked_updateStore (ha : a < r.stores.size) (hb : b < r.stores.size) :
    (r.updateStore a fun _ ↦ r.store b).Linked (.ofStores ha hb) r := by
  refine ⟨rfl, rfl, rfl, ⟨0, Array.size_modify, rfl⟩, ?_⟩
  intro a' b' hj
  rw [updateStore, Array.getElem?_modify]
  obtain ⟨rfl, rfl⟩ | ⟨n, rfl, rfl⟩ := Link.joins_ofStores hj
  · rw [if_pos rfl, getElem?_stores ha, getElem?_stores hb]
    rfl
  · rw [if_neg (by omega)]

/-- Resources in which a store is emptied are linked to those in which another one is made. -/
theorem linked_newStore (ha : a < r.stores.size) :
    (r.updateStore a fun _ ↦ .empty).Linked (.ofNewStore ha) r.newStore.2 := by
  refine ⟨rfl, rfl, rfl, ⟨0, Array.size_modify, Array.size_push _⟩, ?_⟩
  intro a' b' hj
  rw [updateStore, newStore, Array.getElem?_modify, Array.getElem?_push]
  obtain ⟨rfl, rfl⟩ | ⟨n, rfl, rfl⟩ := Link.joins_ofNewStore hj
  · rw [if_pos rfl, if_pos rfl, getElem?_stores ha]
    rfl
  · rw [if_neg (by omega), if_neg (by omega), Array.getElem?_eq_none (by omega),
      Array.getElem?_eq_none (by omega)]

end

/-! ### Computations that leave the stores alone -/

/-- A computation neither sees nor changes the stores. -/
def LeavesStores (f : Resources → Ended α) : Prop :=
  ∀ r stores, f { r with stores := stores } = ((f r).1, { (f r).2 with stores := stores })

namespace LeavesStores

variable {f : Resources → Ended α}

/-- A computation that leaves the stores acts alike on linked resources. -/
theorem linked (hf : LeavesStores f) {l : Link} {r r' : Resources} (h : r.Linked l r') :
    (f r').1 = (f r).1 ∧ (f r).2.Linked l (f r').2 := by
  have hr' : r' = { r with stores := r'.stores } := by
    rw [← h.channels, ← h.nextNumber, ← h.hostState]
  have hself : (f r).2.stores = r.stores := by
    have := hf r r.stores
    exact congrArg (fun x : Ended α ↦ x.2.stores) this
  rw [hr', hf]
  refine ⟨rfl, rfl, rfl, rfl, ?_, ?_⟩
  · rw [hself]
    exact h.sizes
  · rw [hself]
    exact h.stores

private theorem andThen {g : α → Resources → Ended β} (hf : LeavesStores f)
    (hg : ∀ a, LeavesStores (g a)) : LeavesStores fun r ↦ (f r).andThen g := by
  intro r stores
  dsimp only
  rw [hf]
  obtain ⟨o, r'⟩ := f r
  cases o with
  | ok a => exact hg a r' stores
  | error e => rfl
  | panic message => rfl

end LeavesStores

end Resources

open Resources

/-- A computation leaves the stores alone if the functions do that it calls. -/
theorem Plain.runWith_leavesStores {call : NamedCall}
    (hc : ∀ context name args, LeavesStores (call context name args)) (p : Plain α) :
    LeavesStores (p.runWith call) := by
  induction p with
  | done | fail | panic => exact fun _ _ ↦ rfl
  | host update next ih =>
    exact fun r stores ↦ ih (update r.hostState) { r with hostState := update r.hostState } stores
  | queued channel next ih => exact fun r stores ↦ ih (r.queued channel) r stores
  | callNamed context name args next ih =>
    intro r stores
    rw [runWith, runWith, hc]
    obtain ⟨o, r'⟩ := call context name args r
    cases o with
    | ok v => exact ih (.ok v) r' stores
    | error e => exact ih (.error e) r' stores
    | panic message => rfl

private theorem Context.callWithin_leavesStores (limit : Nat) (context : Context) (name : String)
    (args : List Value) : LeavesStores (callWithin host limit context name args) := by
  induction limit generalizing context name args with
  | zero => exact fun _ _ ↦ rfl
  | succ limit ih =>
    intro r stores
    rw [callWithin, callWithin]
    cases context.funcs.get? name with
    | none => rfl
    | some value =>
      refine LeavesStores.andThen (Plain.runWith_leavesStores ih _) (fun f ↦ ?_) r stores
      intro r stores
      cases f.checkArity name args.length with
      | error e => rfl
      | ok _ =>
        refine LeavesStores.andThen (Plain.runWith_leavesStores ih _) (fun results ↦ ?_) r stores
        exact fun _ _ ↦ rfl

/-- A computation that needs no running render leaves the stores. -/
theorem Plain.run_leavesStores (p : Plain α) : LeavesStores (p.run host) :=
  p.runWith_leavesStores (Context.callWithin_leavesStores callNesting)

end TextTemplate
