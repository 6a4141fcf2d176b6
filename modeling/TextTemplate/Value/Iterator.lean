import TextTemplate.Value.Basic

/-!
# Iterators

A type of the host can be ranged over by a protocol: a state to start from, a test for the end, and
a step from a state to the item that it yields and the state behind. An iterator is driven by calls,
one for each item. They yield the items up to the end in order and nothing from then on
(`Drive.nth_start`), and these are the items of the object that stands for the iterator.
-/

set_option autoImplicit false

namespace TextTemplate

/-- An iterator of the host. It comes to an end: less is ahead after each step. -/
structure HostIterator (σ : Type) where
  start : σ
  done : σ → Bool
  /-- The item at a state that is not the end, and the state behind it. -/
  next : σ → Value × σ
  ahead : σ → Nat
  ahead_next : ∀ s, done s = false → ahead (next s).2 < ahead s

/-- An iterator that is driven. It has no state once it has been asked for an item at the end. -/
structure Drive (σ : Type) where
  iterator : HostIterator σ
  state : Option σ

variable {σ : Type}

namespace Drive

/-- An iterator before the first call. -/
def start (it : HostIterator σ) : Drive σ := ⟨it, some it.start⟩

/-- A call: the item that it yields, if there is one, and the iterator after it. -/
def next (d : Drive σ) : Option Value × Drive σ :=
  match d.state with
  | none => (none, d)
  | some s =>
    if d.iterator.done s then (none, { d with state := none })
    else
      let (item, s) := d.iterator.next s
      (some item, { d with state := some s })

/-- What a call yields that comes after some others. -/
def nth (d : Drive σ) : Nat → Option Value
  | 0 => d.next.1
  | n + 1 => d.next.2.nth n

end Drive

namespace HostIterator

variable (it : HostIterator σ)

/-- The items from a state up to the end. -/
def itemsFrom (s : σ) : List Value :=
  if _h : it.done s = true then [] else (it.next s).1 :: itemsFrom (it.next s).2
termination_by it.ahead s
decreasing_by exact it.ahead_next s (eq_false_of_ne_true _h)

/-- All items. -/
def items : List Value := it.itemsFrom it.start

/-- The object of an iterator, of which nothing is known but its items. -/
def object : Object := .host ⟨"iterator", none, none, some it.items, none, [], []⟩

variable {it : HostIterator σ} {s : σ}

private theorem itemsFrom_of_done (h : it.done s = true) : it.itemsFrom s = [] := by
  rw [itemsFrom, dif_pos h]

private theorem itemsFrom_of_not_done (h : it.done s = false) :
    it.itemsFrom s = (it.next s).1 :: it.itemsFrom (it.next s).2 := by
  rw [itemsFrom, dif_neg (ne_true_of_eq_false h)]

end HostIterator

/-! ### Driving an iterator -/

namespace Drive

variable {it : HostIterator σ} {s : σ}

private theorem next_of_done (h : it.done s = true) :
    (⟨it, some s⟩ : Drive σ).next = (none, ⟨it, none⟩) := if_pos h

private theorem next_of_not_done (h : it.done s = false) :
    (⟨it, some s⟩ : Drive σ).next = (some (it.next s).1, ⟨it, some (it.next s).2⟩) :=
  if_neg (ne_true_of_eq_false h)

/-- Without a state nothing more is yielded. -/
theorem nth_of_none (n : Nat) : (⟨it, none⟩ : Drive σ).nth n = none := by
  induction n with
  | zero => rfl
  | succ n ih => exact ih

/-- From a state on, the calls yield the items from there in order, and nothing after the last. -/
theorem nth_of_some (n : Nat) : (⟨it, some s⟩ : Drive σ).nth n = (it.itemsFrom s)[n]? := by
  induction n generalizing s with
  | zero =>
    rw [nth]
    cases h : it.done s with
    | true => rw [next_of_done h, HostIterator.itemsFrom_of_done h, List.getElem?_nil]
    | false =>
      rw [next_of_not_done h, HostIterator.itemsFrom_of_not_done h, List.getElem?_cons_zero]
  | succ n ih =>
    rw [nth]
    cases h : it.done s with
    | true =>
      rw [next_of_done h, HostIterator.itemsFrom_of_done h, nth_of_none, List.getElem?_nil]
    | false =>
      rw [next_of_not_done h, HostIterator.itemsFrom_of_not_done h, List.getElem?_cons_succ, ih]

/-- The calls yield the items of an iterator in order, and nothing after the last. -/
theorem nth_start (it : HostIterator σ) (n : Nat) : (start it).nth n = it.items[n]? :=
  nth_of_some n

end Drive

/-! ### Counting down -/

/-- Above zero, an integer less one is the one before it. -/
private theorem toInt_pred {s : Int64} (h : 0 < s.toInt) : (s - 1).toInt = s.toInt - 1 := by
  have hlt := s.toInt_lt
  have hone : (1 : Int64).toInt = 1 := rfl
  rw [Int64.toInt_sub, hone]
  exact Int.bmod_eq_of_le (by omega) (by omega)

private theorem toInt_pos_of_not_le {s : Int64} (h : decide (s ≤ 0) = false) : 0 < s.toInt := by
  rw [decide_eq_false_iff_not, Int64.not_le] at h
  exact Int64.lt_iff_toInt_lt.mp h

/-- The iterator over the integers from one down to 1. -/
def countdown (n : Int64) : HostIterator Int64 where
  start := n
  done s := s ≤ 0
  next s := (.int s, s - 1)
  ahead s := s.toInt.toNat
  ahead_next s h := by
    have hpos := toInt_pos_of_not_le h
    have hpred := toInt_pred hpos
    show (s - 1).toInt.toNat < s.toInt.toNat
    omega

/-- A positive integer is the one that its number stands for. -/
private theorem int_eq_ofNat {s : Int64} (h : 0 < s.toInt) :
    Value.int s = .ofNat s.toInt.toNat := by
  have hlt : s.toInt < 9223372036854775808 := s.toInt_lt
  have hpow : Nat.pow 2 63 = 9223372036854775808 := rfl
  have hmin : min (s.toInt.toNat : Int) ((Nat.pow 2 63 : Nat) - 1) = s.toInt := by omega
  rw [Value.ofNat, hmin, Int64.ofInt_toInt]

/-- The iterator yields the integers from one down to 1, and none if that is not positive. -/
theorem items_countdown (n : Int64) :
    (countdown n).items = (List.range n.toInt.toNat).reverse.map fun i ↦ .ofNat (i + 1) := by
  have itemsFrom_eq (left : Nat) (s : Int64) (hs : s.toInt.toNat = left) :
      (countdown n).itemsFrom s = (List.range left).reverse.map fun i ↦ .ofNat (i + 1) := by
    induction left generalizing s with
    | zero =>
      have hdone : s ≤ 0 := Int64.le_iff_toInt_le.mpr (Int.toNat_eq_zero.mp hs)
      exact HostIterator.itemsFrom_of_done (decide_eq_true hdone)
    | succ left ih =>
      have hpos : 0 < s.toInt := by omega
      have hnot : ¬ s ≤ 0 := Int64.not_le.mpr (Int64.lt_iff_toInt_lt.mpr hpos)
      have hpred := toInt_pred hpos
      rw [HostIterator.itemsFrom_of_not_done (decide_eq_false hnot), List.range_succ,
        List.reverse_concat, List.map_cons, ← hs, ← int_eq_ofNat hpos]
      exact congrArg (.int s :: ·) (ih (s - 1) (by omega))
  exact itemsFrom_eq _ n rfl

end TextTemplate
