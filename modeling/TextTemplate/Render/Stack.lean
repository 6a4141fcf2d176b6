/-!
# Stacks

A stack is a list with the newest entry first. Its entries are numbered from the oldest on, so
that an entry keeps its number while others come and go above it.
-/

set_option autoImplicit false

namespace TextTemplate.Stack

variable {α β : Type}

/-- The entry of a number. -/
def get? (stack : List α) (n : Nat) : Option α := stack.reverse[n]?

/-- Changes the entry of a number. -/
def modify (stack : List α) (n : Nat) (f : α → α) : List α := (stack.reverse.modify n f).reverse

/-- The oldest `n` entries. -/
def oldest (stack : List α) (n : Nat) : List α := stack.drop (stack.length - n)

/-- The entries above the oldest `n`. -/
def above (stack : List α) (n : Nat) : List α := stack.take (stack.length - n)

/-! ### Laws -/

variable {stack : List α} {n : Nat} {a : α}

/-- An entry that is found has a place in the stack. -/
theorem get?_lt (h : get? stack n = some a) : n < stack.length := by
  simpa using (List.getElem?_eq_some_iff.mp h).1

/-- There is an entry at each place of a stack. -/
theorem get?_of_lt (h : n < stack.length) : ∃ a, get? stack n = some a :=
  ⟨_, List.getElem?_eq_getElem (by simpa using h)⟩

/-- What is found at a place is one of the entries. -/
theorem mem_of_get? (h : get? stack n = some a) : a ∈ stack :=
  List.mem_reverse.mp (List.mem_of_getElem? h)

/-- The entry at a place is changed as all are. -/
@[simp] theorem get?_map (f : α → β) (stack : List α) (n : Nat) :
    get? (stack.map f) n = (get? stack n).map f := by
  rw [get?, get?, ← List.map_reverse, List.getElem?_map]

/-- Newer entries leave the places of older ones. -/
theorem get?_append_lt {newer : List α} (h : n < stack.length) :
    get? (newer ++ stack) n = get? stack n := by
  simp [get?, List.getElem?_append_left, h]

/-- One newer entry leaves the places of older ones. -/
theorem get?_cons_lt (h : n < stack.length) : get? (a :: stack) n = get? stack n :=
  @get?_append_lt _ stack n [a] h

/-- The newest entry is at the place that was free. -/
@[simp] theorem get?_cons_length (a : α) (stack : List α) :
    get? (a :: stack) stack.length = some a := by
  simp [get?]

/-- An entry is the newest one, or one of the others. -/
theorem of_get?_cons {b : α} (h : get? (a :: stack) n = some b) :
    (n = stack.length ∧ a = b) ∨ n < stack.length ∧ get? stack n = some b := by
  have hlt := get?_lt h
  rw [List.length_cons] at hlt
  rcases Nat.lt_succ_iff_lt_or_eq.mp hlt with hn | rfl
  · right
    rw [get?_cons_lt hn] at h
    exact ⟨hn, h⟩
  · left
    rw [get?_cons_length] at h
    exact ⟨rfl, Option.some.inj h⟩

/-- A change of an entry cannot be seen by a view that takes its old and new form as the same. -/
theorem map_modify {f : α → α} {view : α → β}
    (h : ∀ a, get? stack n = some a → view (f a) = view a) :
    (modify stack n f).map view = stack.map view := by
  have hr : (stack.reverse.modify n f).map view = stack.reverse.map view := by
    apply List.ext_getElem?
    intro i
    simp only [List.getElem?_map, List.getElem?_modify]
    split
    · next hi =>
      subst hi
      cases hs : stack.reverse[n]? with
      | none => rfl
      | some a => exact congrArg some (h a hs)
    · cases stack.reverse[i]? <;> rfl
  rw [modify, List.map_reverse, hr, ← List.map_reverse, List.reverse_reverse]

/-- An entry that is changed is found changed. -/
theorem get?_modify_self {f : α → α} (h : get? stack n = some a) :
    get? (modify stack n f) n = some (f a) := by
  rw [get?] at h
  rw [get?, modify, List.reverse_reverse, List.getElem?_modify_eq, h]
  rfl

/-- All entries are among the oldest if those are as many or more. -/
theorem oldest_of_length_le (h : stack.length ≤ n) : oldest stack n = stack := by
  rw [oldest, Nat.sub_eq_zero_of_le h, List.drop_zero]

/-- An entry that comes on top is none of the oldest ones that were there. -/
theorem oldest_cons (a : α) (h : n ≤ stack.length) : oldest (a :: stack) n = oldest stack n := by
  rw [oldest, List.length_cons, Nat.succ_sub h]
  rfl

/-- The oldest entries are as many as asked for at most. -/
theorem length_oldest_le (stack : List α) (n : Nat) : (oldest stack n).length ≤ n := by
  rw [oldest, List.length_drop]
  omega

/-- The oldest entries keep their numbers. -/
theorem get?_oldest {m : Nat} (h : get? stack m = some a) (hm : m < n) :
    get? (oldest stack n) m = some a := by
  have hlt := get?_lt h
  have hl : m < (oldest stack n).length := by
    rw [oldest, List.length_drop]
    omega
  calc get? (oldest stack n) m
      = get? (above stack n ++ oldest stack n) m := (get?_append_lt hl).symm
    _ = get? stack m := by rw [above, oldest, List.take_append_drop]
    _ = some a := h

/-- The oldest entries are changed as all are. -/
theorem map_oldest (f : α → β) (stack : List α) (n : Nat) :
    (oldest stack n).map f = oldest (stack.map f) n := by
  rw [oldest, oldest, List.map_drop, List.length_map]

/-! The entries of a stack below newer ones keep their numbers. -/

/-- The entry upon a stack is at the place that was free, whatever is above it. -/
theorem get?_append_cons (newer : List α) (a : α) (stack : List α) :
    get? (newer ++ a :: stack) stack.length = some a := by
  rw [get?_append_lt (by simp), get?_cons_length]

/-- The entry upon a stack is changed, and nothing above it. -/
theorem modify_append_cons (newer : List α) (a : α) (stack : List α) (f : α → α) :
    modify (newer ++ a :: stack) stack.length f = newer ++ f a :: stack := by
  simp [modify, List.modify_eq_take_drop]

/-- Above a stack are the newer entries. -/
theorem above_append (newer stack : List α) : above (newer ++ stack) stack.length = newer := by
  simp [above]

/-- The oldest entries are those of the stack below. -/
theorem oldest_append (newer stack : List α) : oldest (newer ++ stack) stack.length = stack := by
  simp [oldest]

/-- A stack is what is above a place upon the oldest entries. -/
@[simp] theorem above_append_oldest (stack : List α) (n : Nat) :
    above stack n ++ oldest stack n = stack :=
  List.take_append_drop ..

end TextTemplate.Stack
