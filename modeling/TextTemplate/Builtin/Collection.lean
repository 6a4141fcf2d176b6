import TextTemplate.Builtin.Argument
import TextTemplate.Number.Word
import TextTemplate.Text.Utf8
import TextTemplate.Value.Same

/-!
# Collections

The built-in functions that take elements and slices out of collections, search them, and build
them.
-/

set_option autoImplicit false

namespace TextTemplate.Collection

/-- The error for an index outside of a collection. -/
def indexOutOfRange (i : Int) : EvalError := .new ("index out of range: " ++ toString i)

/-- An index into something of the given length; the length itself is one. -/
def indexArg (v : Value) (length : Nat) : Except EvalError Nat :=
  match Argument.integer? v with
  | some n =>
    match Number.place? n with
    | some i => if i ≤ length then .ok i else .error (indexOutOfRange n)
    | none => .error (indexOutOfRange n)
  | none =>
    if v.indirect.isNil then .error (.new "cannot index slice/array with nil")
    else .error (.new ("cannot index slice/array with type " ++ v.indirect.typeName))

/-- The element of a collection at an index. A missing key of a map gives the zero of its first
value. -/
def indexStep (item index : Value) : Except EvalError Value :=
  match item.indirect with
  | .nil => .error (.new "index of nil pointer")
  | .list items _ => do
    let i ← indexArg index items.length
    match items[i]? with
    | some v => return v
    | none => .error (indexOutOfRange i)
  | .text s => do
    let bytes := s.toUTF8
    let i ← indexArg index bytes.size
    match bytes.toList[i]? with
    | some b => return .uint b.toUInt64
    | none => .error (indexOutOfRange i)
  | .map entries _ => do
    let k ← Argument.key index
    match entries.get? k with
    | some v => return v
    | none => return (entries.firstValue?.map Value.zeroLike).getD .invalid
  | other => .error (.new ("can't index item of type " ++ other.typeName))

/-- The element of a collection at a path of indexes. -/
def indexPath (item : Value) : List Value → Except EvalError Value
  | [] => .ok item
  | index :: rest => do indexPath (← indexStep item index) rest

/-- `index x i j` is the element of `x` at `i`, then at `j`. -/
def index (args : List Value) : Except EvalError Value :=
  let item := (args.headD .invalid).indirect
  if item.isInvalid then .error (.new "index of untyped nil") else indexPath item args.tail

/-- The indexes given for a slice, each within the length. -/
def indexArgs (length : Nat) : List Value → Except EvalError (List Nat)
  | [] => .ok []
  | v :: rest => do
    let i ← indexArg v length
    return i :: (← indexArgs length rest)

/-- The error for a slice that ends before it begins. -/
def badSlice (i j : Nat) : EvalError :=
  .new ("invalid slice index: " ++ toString i ++ " > " ++ toString j)

/-- The bounds of a slice from the indexes given, of which up to three are start, end and
capacity. -/
def sliceBounds (length : Nat) (indexes : List Value) : Except EvalError (Nat × Nat) := do
  let given ← indexArgs length indexes
  let i := given.getD 0 0
  let j := given.getD 1 length
  let k := given.getD 2 length
  if j < i then .error (badSlice i j)
  else if indexes.length = 3 ∧ k < j then .error (badSlice j k)
  else return (i, j)

/-- A part of something of a length, from one place up to another. Where there is no such range,
taking the part panics. -/
def partOf {α : Type} (length i j : Nat) (part : α) : Outcome α :=
  if j < i then
    .panic (some ("slice index starts at " ++ toString i ++ " but ends at " ++ toString j))
  else if length < j then
    .panic (some ("range end index " ++ toString j ++ " out of range for slice of length " ++
      toString length))
  else .ok part

/-- What is cut out of something of a length at the bounds from the indexes given. -/
def cut (length : Nat) (indexes : List Value) (part : Nat → Nat → Value) : Outcome Value :=
  (Outcome.ofExcept (sliceBounds length indexes)).bind fun b =>
    partOf length b.1 b.2 (part b.1 b.2)

/-- The bytes of a text from one offset to another, read as text. -/
def sliceText (s : String) (i j : Nat) : String := Text.decodeText (s.toUTF8.extract i j)

/-- `slice x i j` is the part of `x` from `i` up to `j`. -/
def slice (args : List Value) : Outcome Value :=
  let item := (args.headD .invalid).indirect
  let indexes := args.tail
  if item.isInvalid then .error (.new "slice of untyped nil")
  else if 3 < indexes.length then
    .error (.new ("too many slice indexes: " ++ toString indexes.length))
  else match item with
    | .text s =>
      if indexes.length = 3 then .error (.new "cannot 3-index slice a string")
      else cut s.utf8ByteSize indexes fun i j => .text (sliceText s i j)
    | .list items _ =>
      cut items.length indexes fun i j => .list ((items.take j).drop i) none
    | other => .error (.new ("can't slice item of type " ++ other.typeName))

/-- The length of a value; channels are measured by `queued`. -/
def lengthOf (queued : Nat → Nat) (v : Value) : Except EvalError Value :=
  match v.indirect with
  | .invalid => .error (.new "len of untyped nil")
  | .nil => .error (.new "len of nil pointer")
  | item =>
    match item.length? queued with
    | some n => .ok (.ofNat n)
    | none => .error (.new ("len of type " ++ item.typeName))

/-- The texts among arguments numbered from `i`. -/
def needles (i : Nat) : List Value → Except EvalError (List String)
  | [] => .ok []
  | v :: rest =>
    match v.indirect.asText? with
    | some s => do return s :: (← needles (i + 1) rest)
    | none => .error (.new ("arg " ++ toString i ++ " is not a string value"))

/-- Whether the characters `sub` stand somewhere in `cs`. -/
def isInfix (sub : List Char) : List Char → Bool
  | [] => sub.isEmpty
  | c :: cs => sub.isPrefixOf (c :: cs) || isInfix sub cs

/-- Whether a collection holds all other arguments: elements of a list, parts of a text, keys of
a map. -/
def contains (args : List Value) : Except EvalError Value :=
  let subs := args.tail
  match (args.headD .invalid).indirect with
  | .invalid => .error (.new "index of untyped nil")
  | .nil => .error (.new "index of nil pointer")
  | .list items _ =>
    .ok (.bool (!items.isEmpty && subs.all fun sub => items.any fun v => v.same sub.indirect))
  | .text s => do
    let found ← needles 1 subs
    return .bool (found.all fun sub => isInfix sub.toList s.toList)
  | .map entries _ => do
    let keys ← Argument.keys subs
    return .bool (!entries.isEmpty && keys.all entries.contains)
  | other => .error (.new ("can't look for items in type " ++ other.typeName))

/-- A list with the other arguments at its end. -/
def append (args : List Value) : Except EvalError Value :=
  match (args.headD .invalid).indirect with
  | .list items _ => .ok (.list (items ++ args.tail) none)
  | .invalid | .nil => .ok (.list args.tail none)
  | other => .error (.new ("can't append to type " ++ other.typeName))

/-- The map of alternating keys and values; an odd number of arguments gives the empty one. -/
def map (args : List Value) : Except EvalError Value :=
  if args.length % 2 ≠ 0 then .ok (.map .empty none)
  else (Argument.pairs args).map fun es => .map (.ofList es) none

/-- The map of alternating keys and values. -/
def dict (args : List Value) : Except EvalError Value :=
  if args.length % 2 ≠ 0 then .error (.new "dict: odd number of arguments")
  else (Argument.pairs args).map fun es => .map (.ofList es) none

/-- The map of a key `K` and a value `V`. -/
def newPair (args : List Value) : Value :=
  .map (.ofList [(.text "K", args.headD .invalid), (.text "V", args.tail.headD .invalid)]) none

/-! ### Bounds of slices -/

variable {v : Value} {indexes : List Value} {given : List Nat} {length i j : Nat}

/-- An index is within the length. -/
theorem indexArg_le (h : indexArg v length = .ok i) : i ≤ length := by
  rw [indexArg] at h
  split at h
  · split at h
    · split at h
      · next hle =>
        cases h
        exact hle
      · cases h
    · cases h
  · split at h <;> cases h

/-- All indexes are within the length. -/
theorem indexArgs_le (h : indexArgs length indexes = .ok given) : ∀ i ∈ given, i ≤ length := by
  induction indexes generalizing given with
  | nil =>
    cases h
    nofun
  | cons v rest ih =>
    rw [indexArgs] at h
    cases hv : indexArg v length with
    | error e =>
      rw [hv] at h
      cases h
    | ok i =>
      cases hrest : indexArgs length rest with
      | error e =>
        rw [hv, hrest] at h
        cases h
      | ok is =>
        rw [hv, hrest] at h
        cases h
        simpa using ⟨indexArg_le hv, ih hrest⟩

/-- The bounds of a slice from the indexes as they are read. -/
theorem sliceBounds_of_indexArgs (h : indexArgs length indexes = .ok given) :
    sliceBounds length indexes =
      if given.getD 1 length < given.getD 0 0 then
        .error (badSlice (given.getD 0 0) (given.getD 1 length))
      else if indexes.length = 3 ∧ given.getD 2 length < given.getD 1 length then
        .error (badSlice (given.getD 1 length) (given.getD 2 length))
      else .ok (given.getD 0 0, given.getD 1 length) := by
  rw [sliceBounds, h]
  rfl

/-- The bounds of a slice are in order and within the length. -/
theorem sliceBounds_le (h : sliceBounds length indexes = .ok (i, j)) : i ≤ j ∧ j ≤ length := by
  cases hgiven : indexArgs length indexes with
  | error e =>
    rw [sliceBounds, hgiven] at h
    cases h
  | ok given =>
    have hend : given.getD 1 length ≤ length := by
      rw [List.getD_eq_getElem?_getD]
      cases hj : given[1]? with
      | none => exact Nat.le_refl _
      | some j => exact indexArgs_le hgiven j (List.mem_of_getElem? hj)
    rw [sliceBounds_of_indexArgs hgiven] at h
    split at h
    · cases h
    · split at h
      · cases h
      · cases h
        omega

/-- A part is had where its range is one of the whole. -/
theorem partOf_of_le {α : Type} (hij : i ≤ j) (hj : j ≤ length) (part : α) :
    partOf length i j part = .ok part := by
  rw [partOf, if_neg (Nat.not_lt.mpr hij), if_neg (Nat.not_lt.mpr hj)]

/-- The range that is cut out is one of the whole, so cutting it does not panic. -/
theorem cut_eq (length : Nat) (indexes : List Value) (part : Nat → Nat → Value) :
    cut length indexes part =
      .ofExcept ((sliceBounds length indexes).map fun b => part b.1 b.2) := by
  rw [cut]
  cases hbounds : sliceBounds length indexes with
  | error e => rfl
  | ok b =>
    obtain ⟨hij, hj⟩ := sliceBounds_le hbounds
    exact partOf_of_le hij hj _

end TextTemplate.Collection
