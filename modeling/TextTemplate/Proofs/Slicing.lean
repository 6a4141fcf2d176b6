import Mathlib.Data.List.Forall2
import TextTemplate.Proofs.Answering
import TextTemplate.Proofs.Encoding
import TextTemplate.Proofs.Evaluation
import TextTemplate.Proofs.Validity

/-!
# Elements and slices

A slice of a list has the elements that the list has at the places of the slice, a slice of a text
its bytes where it is cut at characters (`Collection.slices_agree`). Bounds are indexes, integers
from zero to the length, and they ascend; anything else is refused, so no part is taken that is not
there. A path of indexes is followed in one go as it is in two.
-/

set_option autoImplicit false

namespace TextTemplate.Collection

variable {host : Host} {v w x y : Value} {xs ks ls indexes : List Value} {cell : Option Nat}
  {s : String} {length i j k : Nat}

/-! ### Indexes -/

/-- The value is an integer that is an index into something of a length, which is one itself. -/
def IsIndex (length : Nat) (v : Value) (i : Nat) : Prop :=
  Argument.integer? v = some (i : Int) ∧ i ≤ length

/-- Integers of values are those of 64 bits. -/
private theorem integer?_lt {n : Int} (h : Argument.integer? v = some n) :
    n < (Nat.pow 2 64 : Nat) := by
  have hpow : Nat.pow 2 64 = 18446744073709551616 := rfl
  rw [Argument.integer?] at h
  split at h
  · next a _ =>
    cases h
    have hlt : a.toInt < 9223372036854775808 := a.toInt_lt
    omega
  · next a _ =>
    cases h
    have hlt : a.toNat < 18446744073709551616 := a.toNat_lt
    omega
  · cases h

/-- An index is what is converted to a place up to the length. -/
private theorem indexArg_eq_ok_iff : indexArg v length = .ok i ↔ IsIndex length v i := by
  rw [indexArg, IsIndex]
  cases hv : Argument.integer? v with
  | none =>
    dsimp only
    split <;> simp
  | some n =>
    have hlt := integer?_lt hv
    dsimp only
    cases hn : Number.place? n with
    | some m =>
      obtain ⟨rfl, -⟩ := Number.place?_eq_some_iff.mp hn
      dsimp only
      split
      · rw [Except.ok.injEq, Option.some.injEq]
        omega
      · simp only [reduceCtorEq, Option.some.injEq, false_iff]
        omega
    | none =>
      simp only [reduceCtorEq, Option.some.injEq, false_iff]
      rintro ⟨rfl, -⟩
      have hplace : Number.place? i = some i :=
        Number.place?_eq_some_iff.mpr ⟨rfl, Int.ofNat_lt.mp hlt⟩
      rw [hplace] at hn
      cases hn

/-- Every index is one. -/
theorem indexArgs_eq_ok_iff {given : List Nat} :
    indexArgs length indexes = .ok given ↔ List.Forall₂ (IsIndex length) indexes given := by
  induction indexes generalizing given with
  | nil => simp [indexArgs, eq_comm]
  | cons v rest ih =>
    rw [List.forall₂_cons_left_iff, indexArgs]
    constructor
    · intro h
      cases hv : indexArg v length with
      | error e =>
        rw [hv] at h
        cases h
      | ok i =>
        cases hrest : indexArgs length rest with
        | error e =>
          rw [hv, hrest] at h
          cases h
        | ok is =>
          rw [hv, hrest] at h
          cases h
          exact ⟨i, is, indexArg_eq_ok_iff.mp hv, ih.mp hrest, rfl⟩
    · rintro ⟨i, is, hv, hrest, rfl⟩
      rw [indexArg_eq_ok_iff.mpr hv, ih.mpr hrest]
      rfl

/-! ### Bounds -/

/-- The indexes ascend. -/
def Ascending (length : Nat) (indexes : List Value) (given : List Nat) : Prop :=
  List.Forall₂ (IsIndex length) indexes given ∧ given.Pairwise (· ≤ ·)

/-- The indexes give the bounds of a slice: the start is zero and the end is the length where they
are not given. -/
def Bounds (length : Nat) (indexes : List Value) (i j : Nat) : Prop :=
  ∃ given, Ascending length indexes given ∧ given.getD 0 0 = i ∧ given.getD 1 length = j

/-- The bounds and the capacity that are given for a slice are in order when all indexes are. -/
theorem pairwise_iff {given : List Nat} (h : given.length ≤ 3) (hle : ∀ i ∈ given, i ≤ length) :
    given.Pairwise (· ≤ ·) ↔ given.getD 0 0 ≤ given.getD 1 length ∧
      (given.length = 3 → given.getD 1 length ≤ given.getD 2 length) := by
  match given with
  | [] => simp
  | [i] => simpa using hle
  | [i, j] => simp
  | [i, j, k] =>
    simp
    omega

/-- The bounds of a slice are had from indexes that ascend, and from no others. -/
theorem sliceBounds_eq_ok_iff (h : indexes.length ≤ 3) :
    sliceBounds length indexes = .ok (i, j) ↔ Bounds length indexes i j := by
  have hpairwise {given : List Nat} (hall : List.Forall₂ (IsIndex length) indexes given) :
      given.Pairwise (· ≤ ·) ↔ given.getD 0 0 ≤ given.getD 1 length ∧
        (indexes.length = 3 → given.getD 1 length ≤ given.getD 2 length) := by
    rw [hall.length_eq]
    exact pairwise_iff (hall.length_eq ▸ h) (indexArgs_le (indexArgs_eq_ok_iff.mpr hall))
  constructor
  · intro hbounds
    cases hgiven : indexArgs length indexes with
    | error e =>
      rw [sliceBounds, hgiven] at hbounds
      cases hbounds
    | ok given =>
      have hall := indexArgs_eq_ok_iff.mp hgiven
      rw [sliceBounds_of_indexArgs hgiven] at hbounds
      split at hbounds
      · cases hbounds
      · next hstart =>
        split at hbounds
        · cases hbounds
        · next hcapacity =>
          cases hbounds
          refine ⟨given, ⟨hall, (hpairwise hall).mpr ⟨by omega, ?_⟩⟩, rfl, rfl⟩
          intro hthree
          exact Nat.le_of_not_lt fun hlt ↦ hcapacity ⟨hthree, hlt⟩
  · rintro ⟨given, hascending, rfl, rfl⟩
    obtain ⟨hstart, hcapacity⟩ := (hpairwise hascending.1).mp hascending.2
    rw [sliceBounds_of_indexArgs (indexArgs_eq_ok_iff.mpr hascending.1), if_neg (by omega),
      if_neg]
    rintro ⟨hthree, hlt⟩
    have := hcapacity hthree
    omega

/-- Two indexes that ascend are bounds. -/
theorem sliceBounds_pair (hi : IsIndex length x i) (hj : IsIndex length y j) (hij : i ≤ j) :
    sliceBounds length [x, y] = .ok (i, j) :=
  (sliceBounds_eq_ok_iff (Nat.le_succ _)).mpr
    ⟨[i, j], ⟨.cons hi (.cons hj .nil), by simpa using hij⟩, rfl, rfl⟩

/-- One index is a bound, and the length is the other. -/
theorem sliceBounds_singleton (hi : IsIndex length x i) :
    sliceBounds length [x] = .ok (i, length) :=
  (sliceBounds_eq_ok_iff (Nat.le_add_left _ _)).mpr
    ⟨[i], ⟨.cons hi .nil, List.pairwise_singleton _ _⟩, rfl, rfl⟩

/-! ### Slices -/

/-- With something to slice, what is done is the slice. -/
theorem answer_slice (host : Host) (v : Value) (indexes : List Value) :
    Builtin.slice.answer host (v :: indexes) =
      .ofOutcome ((slice (v :: indexes)).map .single) := by
  have haccepts : Builtin.slice.arity.accepts (v :: indexes).length = true := by
    simp [Builtin.arity, Arity.accepts, Arity.atLeast]
  rw [Builtin.answer_of_not_stateful rfl, if_pos haccepts, Builtin.plain]

private theorem gives_slice_iff :
    Builtin.Gives host .slice (v :: indexes) w ↔ slice (v :: indexes) = .ok w := by
  rw [Builtin.Gives, answer_slice]
  cases slice (v :: indexes) <;> simp [Outcome.map, Outcome.bind, Plain.ofOutcome]

/-- A slice answers in one of two ways: the part that it takes is there. -/
theorem slice_gives_or_fails (host : Host) (args : List Value) :
    (∃ w, Builtin.Gives host .slice args w) ∨ Builtin.Fails host .slice args := by
  cases args with
  | nil => exact .inr ⟨_, rfl⟩
  | cons v indexes =>
    obtain ⟨x, -, hx⟩ := slice_fresh (v :: indexes)
    simp only [Builtin.Gives, Builtin.Fails, answer_slice, hx]
    cases x with
    | ok w => exact .inl ⟨w, rfl⟩
    | error e => exact .inr ⟨e, rfl⟩

/-- What is cut out is the part at the bounds. -/
theorem cut_eq_ok_iff {part : Nat → Nat → Value} :
    cut length indexes part = .ok w ↔
      ∃ i j, sliceBounds length indexes = .ok (i, j) ∧ w = part i j := by
  rw [cut_eq]
  cases sliceBounds length indexes with
  | error e => simp [Except.map, Outcome.ofExcept]
  | ok b =>
    simp only [Except.map, Outcome.ofExcept, Outcome.ok.injEq, Except.ok.injEq]
    constructor
    · rintro rfl
      exact ⟨b.1, b.2, rfl, rfl⟩
    · rintro ⟨i, j, rfl, rfl⟩
      rfl

private theorem gives_slice_list_iff (h : v.indirect = .list xs cell) :
    Builtin.Gives host .slice (v :: indexes) w ↔ indexes.length ≤ 3 ∧
      ∃ i j, sliceBounds xs.length indexes = .ok (i, j) ∧
        w = .list ((xs.take j).drop i) none := by
  have hslice : slice (v :: indexes) =
      if 3 < indexes.length then
        .error (.new ("too many slice indexes: " ++ toString indexes.length))
      else cut xs.length indexes fun i j => .list ((xs.take j).drop i) none := by
    simp only [slice, List.headD_cons, List.tail_cons, h]
    rfl
  rw [gives_slice_iff, hslice]
  split
  · next hmany => simp [Nat.not_le_of_lt hmany]
  · next hfew => simp [cut_eq_ok_iff, Nat.le_of_not_lt hfew]

private theorem gives_slice_text_iff (h : v.indirect = .text s) :
    Builtin.Gives host .slice (v :: indexes) w ↔ indexes.length ≤ 2 ∧
      ∃ i j, sliceBounds s.utf8ByteSize indexes = .ok (i, j) ∧ w = .text (sliceText s i j) := by
  have hslice : slice (v :: indexes) =
      if 3 < indexes.length then
        .error (.new ("too many slice indexes: " ++ toString indexes.length))
      else if indexes.length = 3 then .error (.new "cannot 3-index slice a string")
      else cut s.utf8ByteSize indexes fun i j => .text (sliceText s i j) := by
    simp only [slice, List.headD_cons, List.tail_cons, h]
    rfl
  rw [gives_slice_iff, hslice]
  split
  · next hmany =>
    have hmany : ¬ indexes.length ≤ 2 := by omega
    simp [hmany]
  · split
    · next hthree => simp [hthree]
    · have hfew : indexes.length ≤ 2 := by omega
      simp [cut_eq_ok_iff, hfew]

/-! ### Elements -/

private theorem indirect_indirect (v : Value) : v.indirect.indirect = v.indirect := by
  cases v with
  | some v cell => exact indirect_indirect v
  | _ => rfl

private theorem gives_index_iff :
    Builtin.Gives host .index (v :: ks) w ↔
      v.indirect.isInvalid = false ∧ indexPath v.indirect ks = .ok w := by
  have hindex : Builtin.index.pureResult (v :: ks) =
      if v.indirect.isInvalid then .error (.new "index of untyped nil")
      else indexPath v.indirect ks := rfl
  rw [Builtin.gives_iff rfl, hindex]
  cases v.indirect.isInvalid with
  | true => simp
  | false => simp [Builtin.arity, Arity.accepts, Arity.atLeast]

/-- What is done at an index is done at the integer that the index is. -/
theorem indexArg_bind_eq_ok_iff {f : Nat → Except EvalError Value}
    (hf : ∀ i w, f i = .ok w → i ≤ length) :
    indexArg x length >>= f = .ok w ↔
      ∃ i : Nat, Argument.integer? x = some (i : Int) ∧ f i = .ok w := by
  constructor
  · intro h
    cases hx : indexArg x length with
    | error e =>
      rw [hx] at h
      cases h
    | ok i =>
      rw [hx] at h
      exact ⟨i, (indexArg_eq_ok_iff.mp hx).1, h⟩
  · rintro ⟨i, hx, hi⟩
    rw [indexArg_eq_ok_iff.mpr ⟨hx, hf i w hi⟩]
    exact hi

/-- An element of a list is had at an index below the length. -/
theorem indexStep_list_iff (h : v.indirect = .list xs cell) :
    indexStep v x = .ok w ↔ ∃ i : Nat, Argument.integer? x = some (i : Int) ∧ xs[i]? = some w := by
  rw [indexStep, h]
  refine (indexArg_bind_eq_ok_iff fun i w hi ↦ ?_).trans
    (exists_congr fun i ↦ and_congr_right fun _ ↦ ?_)
  · cases hx : xs[i]? with
    | none =>
      rw [hx] at hi
      cases hi
    | some y => exact Nat.le_of_lt (List.getElem?_eq_some_iff.mp hx).1
  · cases xs[i]? with
    | none => simp
    | some y => simp [Pure.pure, Except.pure]

/-- A byte of a text is had at an index below the number of bytes. -/
theorem indexStep_text_iff (h : v.indirect = .text s) :
    indexStep v x = .ok w ↔ ∃ i : Nat, Argument.integer? x = some (i : Int) ∧
      ∃ b, s.toUTF8.toList[i]? = some b ∧ w = .uint b.toUInt64 := by
  rw [indexStep, h]
  refine (indexArg_bind_eq_ok_iff fun i w hi ↦ ?_).trans
    (exists_congr fun i ↦ and_congr_right fun _ ↦ ?_)
  · cases hx : s.toUTF8.toList[i]? with
    | none =>
      rw [hx] at hi
      cases hi
    | some b =>
      have hlt := (List.getElem?_eq_some_iff.mp hx).1
      rw [Text.length_toUTF8] at hlt
      exact Nat.le_of_lt hlt
  · cases s.toUTF8.toList[i]? with
    | none => simp
    | some b => simp [Pure.pure, Except.pure, eq_comm]

private theorem indexPath_append (v : Value) (ks ls : List Value) :
    indexPath v (ks ++ ls) = indexPath v ks >>= fun y ↦ indexPath y ls := by
  induction ks generalizing v with
  | nil => rfl
  | cons k ks ih =>
    rw [List.cons_append, indexPath, indexPath]
    cases indexStep v k with
    | error e => rfl
    | ok y => exact ih y

/-- Indexing looks through optionals, and nothing is had from an invalid value. -/
theorem gives_index_cons_iff :
    Builtin.Gives host .index (v :: x :: ks) w ↔ indexPath v (x :: ks) = .ok w := by
  have hindirect : indexStep v.indirect x = indexStep v x := by
    rw [indexStep, indexStep, indirect_indirect]
  rw [gives_index_iff, indexPath, indexPath, hindirect]
  refine ⟨fun h ↦ h.2, fun h ↦ ⟨?_, h⟩⟩
  rw [indexStep] at h
  cases hv : v.indirect with
  | invalid =>
    rw [hv] at h
    cases h
  | _ => rfl

private theorem gives_element_iff : Builtin.Gives host .index [v, x] w ↔ indexStep v x = .ok w := by
  rw [gives_index_cons_iff, indexPath]
  cases indexStep v x <;> simp [indexPath, bind, Except.bind]

/-- A path of indexes is followed in one go as it is in two. -/
theorem gives_index_append_iff (hls : ls ≠ []) :
    Builtin.Gives host .index (v :: (ks ++ ls)) w ↔
      ∃ y, Builtin.Gives host .index (v :: ks) y ∧ Builtin.Gives host .index (y :: ls) w := by
  obtain ⟨l, ls, rfl⟩ := List.exists_cons_of_ne_nil hls
  simp only [gives_index_cons_iff]
  simp only [gives_index_iff, indexPath_append, and_assoc, exists_and_left]
  refine and_congr_right fun _ ↦ ?_
  cases indexPath v.indirect ks with
  | error e => simp [bind, Except.bind]
  | ok y => simp [bind, Except.bind]

/-! ### Parts -/

private theorem getElem?_part {α : Type} (as : List α) (hk : k < j - i) :
    ((as.take j).drop i)[k]? = as[i + k]? := by
  rw [List.getElem?_drop, List.getElem?_take_of_lt (by omega)]

private theorem length_part {α : Type} {as : List α} (hj : j ≤ as.length) :
    ((as.take j).drop i).length = j - i := by
  rw [List.length_drop, List.length_take_of_le hj]

/-- Between characters a text is cut without loss. -/
theorem toUTF8_sliceText (hi : (⟨i⟩ : String.Pos.Raw).IsValid s)
    (hj : (⟨j⟩ : String.Pos.Raw).IsValid s) (hij : i ≤ j) :
    (sliceText s i j).toUTF8.toList = (s.toUTF8.toList.take j).drop i := by
  have hvalid : (s.toUTF8.extract i j).IsValidUTF8 :=
    (String.Pos.Raw.isValidUTF8_extract_iff ⟨i⟩ ⟨j⟩ hij hj.le_rawEndPos).mpr (.inr ⟨hi, hj⟩)
  rw [sliceText, Text.toUTF8_decodeText hvalid, Text.toList_eq, Text.toList_eq,
    ByteArray.data_extract, Array.toList_extract, List.extract_eq_take_drop, List.drop_take]

/-- Texts with the same bytes are the same. -/
theorem eq_of_toUTF8 {t : String} (h : s.toUTF8.toList = t.toUTF8.toList) : s = t := by
  rw [Text.toList_eq, Text.toList_eq, Array.toList_inj] at h
  exact String.toByteArray_inj.mp (ByteArray.ext h)

/-- A text is its part before a character and the one after it. -/
theorem sliceText_append (hi : (⟨i⟩ : String.Pos.Raw).IsValid s) :
    sliceText s 0 i ++ sliceText s i s.utf8ByteSize = s := by
  have hle : i ≤ s.utf8ByteSize := hi.le_rawEndPos
  have hstart := toUTF8_sliceText String.Pos.Raw.isValid_zero hi (Nat.zero_le i)
  have hend := toUTF8_sliceText hi String.Pos.Raw.isValid_rawEndPos hle
  apply eq_of_toUTF8
  calc (sliceText s 0 i ++ sliceText s i s.utf8ByteSize).toUTF8.toList
      = (sliceText s 0 i).toUTF8.toList ++ (sliceText s i s.utf8ByteSize).toUTF8.toList := by
        rw [Text.toList_toUTF8, String.toList_append, List.flatMap_append, Text.toList_toUTF8,
          Text.toList_toUTF8]
    _ = s.toUTF8.toList.take i ++ (s.toUTF8.toList.take s.utf8ByteSize).drop i := by
        rw [hstart, hend, List.drop_zero]
    _ = s.toUTF8.toList := by
        rw [← Text.length_toUTF8, List.take_length, List.take_append_drop]

/-- The indexes are at most so many, and they ascend. -/
def Accepts (most length : Nat) (indexes : List Value) : Prop :=
  indexes.length ≤ most ∧ ∃ given, Ascending length indexes given

/-- Slices and elements of a value that is a list. -/
structure ListParts (host : Host) (v : Value) (xs : List Value) : Prop where
  /-- A slice is the part at its bounds, which are a place of the list and one that is not before
  it. -/
  within (indexes : List Value) (w : Value) : Builtin.Gives host .slice (v :: indexes) w →
    ∃ i j, sliceBounds xs.length indexes = .ok (i, j) ∧ i ≤ j ∧ j ≤ xs.length ∧
      w = .list ((xs.take j).drop i) none
  slice_fails (indexes : List Value) :
    Builtin.Fails host .slice (v :: indexes) ↔ ¬ Accepts 3 xs.length indexes
  index_fails (x : Value) : Builtin.Fails host .index [v, x] ↔
    ∀ i : Nat, Argument.integer? x = some (i : Int) → xs.length ≤ i
  /-- The elements of a slice are those of the list from the start of the slice on. -/
  part (x y : Value) (i j : Nat) : IsIndex xs.length x i → IsIndex xs.length y j → i ≤ j →
    ∃ ys, Builtin.Gives host .slice [v, x, y] (.list ys none) ∧ ys.length = j - i ∧
      ∀ k z, k < j - i → Argument.integer? z = some ((i + k : Nat) : Int) →
        ∃ w, ys[k]? = some w ∧ Builtin.Gives host .index [v, z] w
  /-- The list is its part before a place with the elements after it appended. -/
  append (zero x : Value) (i : Nat) : IsIndex xs.length zero 0 → IsIndex xs.length x i →
    ∃ front back, Builtin.Gives host .slice [v, zero, x] (.list front none) ∧
      Builtin.Gives host .slice [v, x] (.list back none) ∧
      Builtin.Gives host .append (.list front none :: back) (.list xs none)

/-- Slices and bytes of a value that is a text. -/
structure TextParts (host : Host) (v : Value) (s : String) : Prop where
  /-- A slice is the part at its bounds, which are a place of the text and one that is not before
  it. -/
  within (indexes : List Value) (w : Value) : Builtin.Gives host .slice (v :: indexes) w →
    ∃ i j, sliceBounds s.utf8ByteSize indexes = .ok (i, j) ∧ i ≤ j ∧ j ≤ s.utf8ByteSize ∧
      w = .text (sliceText s i j)
  slice_fails (indexes : List Value) :
    Builtin.Fails host .slice (v :: indexes) ↔ ¬ Accepts 2 s.utf8ByteSize indexes
  index_fails (x : Value) : Builtin.Fails host .index [v, x] ↔
    ∀ i : Nat, Argument.integer? x = some (i : Int) → s.utf8ByteSize ≤ i
  /-- The bytes of a slice between characters are those of the text from its start on. -/
  part (x y : Value) (i j : Nat) : IsIndex s.utf8ByteSize x i → IsIndex s.utf8ByteSize y j →
    i ≤ j → (⟨i⟩ : String.Pos.Raw).IsValid s → (⟨j⟩ : String.Pos.Raw).IsValid s →
      ∃ t, Builtin.Gives host .slice [v, x, y] (.text t) ∧ t.utf8ByteSize = j - i ∧
        ∀ k z, k < j - i → Argument.integer? z = some ((i + k : Nat) : Int) →
          ∃ b, t.toUTF8.toList[k]? = some b ∧ Builtin.Gives host .index [v, z] (.uint b.toUInt64)
  /-- The text is its part before a character and the one after it. -/
  append (zero x : Value) (i : Nat) : IsIndex s.utf8ByteSize zero 0 →
    IsIndex s.utf8ByteSize x i → (⟨i⟩ : String.Pos.Raw).IsValid s →
      ∃ front back, Builtin.Gives host .slice [v, zero, x] (.text front) ∧
        Builtin.Gives host .slice [v, x] (.text back) ∧ front ++ back = s

/-- Indexes are refused where no slice is had from them. -/
theorem fails_slice_iff {most : Nat} {part : Nat → Nat → Value} (hmost : most ≤ 3)
    (h : ∀ w, Builtin.Gives host .slice (v :: indexes) w ↔
      indexes.length ≤ most ∧ ∃ i j, sliceBounds length indexes = .ok (i, j) ∧ w = part i j) :
    Builtin.Fails host .slice (v :: indexes) ↔ ¬ Accepts most length indexes := by
  rw [Builtin.fails_iff_not_gives (slice_gives_or_fails ..), ← not_exists]
  refine not_congr ⟨?_, ?_⟩
  · rintro ⟨w, hw⟩
    obtain ⟨hfew, i, j, hbounds, -⟩ := (h w).mp hw
    obtain ⟨given, hascending, -⟩ :=
      (sliceBounds_eq_ok_iff (Nat.le_trans hfew hmost)).mp hbounds
    exact ⟨hfew, given, hascending⟩
  · rintro ⟨hfew, given, hascending⟩
    have hbounds := (sliceBounds_eq_ok_iff (Nat.le_trans hfew hmost)).mpr
      ⟨given, hascending, rfl, rfl⟩
    exact ⟨_, (h _).mpr ⟨hfew, _, _, hbounds, rfl⟩⟩

/-- An index is refused where there is nothing at it. -/
theorem fails_index_iff {Element : Nat → Value → Prop}
    (h : ∀ w, Builtin.Gives host .index [v, x] w ↔
      ∃ i : Nat, Argument.integer? x = some (i : Int) ∧ Element i w)
    (hlength : ∀ i, (∃ w, Element i w) ↔ i < length) :
    Builtin.Fails host .index [v, x] ↔
      ∀ i : Nat, Argument.integer? x = some (i : Int) → length ≤ i := by
  rw [Builtin.fails_iff_not_gives (Builtin.gives_or_fails rfl ..)]
  constructor
  · intro hnone i hi
    refine Nat.le_of_not_lt fun hlt ↦ ?_
    obtain ⟨w, hw⟩ := (hlength i).mpr hlt
    exact hnone w ((h w).mpr ⟨i, hi, hw⟩)
  · intro hout w hw
    obtain ⟨i, hi, hw⟩ := (h w).mp hw
    exact absurd ((hlength i).mp ⟨w, hw⟩) (Nat.not_lt.mpr (hout i hi))

private theorem gives_element_list_iff (h : v.indirect = .list xs cell) :
    Builtin.Gives host .index [v, x] w ↔
      ∃ i : Nat, Argument.integer? x = some (i : Int) ∧ xs[i]? = some w :=
  gives_element_iff.trans (indexStep_list_iff h)

private theorem gives_element_text_iff (h : v.indirect = .text s) :
    Builtin.Gives host .index [v, x] w ↔ ∃ i : Nat, Argument.integer? x = some (i : Int) ∧
      ∃ b, s.toUTF8.toList[i]? = some b ∧ w = .uint b.toUInt64 :=
  gives_element_iff.trans (indexStep_text_iff h)

private theorem gives_append_list (host : Host) (front back : List Value) :
    Builtin.Gives host .append (.list front none :: back) (.list (front ++ back) none) := by
  rw [Builtin.gives_iff rfl]
  exact ⟨by simp [Builtin.arity, Arity.accepts, Arity.atLeast], rfl⟩

private theorem listParts (host : Host) (h : v.indirect = .list xs cell) : ListParts host v xs where
  within indexes w hw := by
    obtain ⟨-, i, j, hbounds, rfl⟩ := (gives_slice_list_iff h).mp hw
    obtain ⟨hij, hj⟩ := sliceBounds_le hbounds
    exact ⟨i, j, hbounds, hij, hj, rfl⟩
  slice_fails indexes := fails_slice_iff (Nat.le_refl _) fun w ↦ gives_slice_list_iff h
  index_fails x := fails_index_iff (fun w ↦ gives_element_list_iff h) fun i ↦ by
    rw [← Option.isSome_iff_exists, isSome_getElem?]
  part x y i j hi hj hij := by
    have hslice : Builtin.Gives host .slice [v, x, y] (.list ((xs.take j).drop i) none) :=
      (gives_slice_list_iff h).mpr ⟨Nat.le_succ _, i, j, sliceBounds_pair hi hj hij, rfl⟩
    refine ⟨_, hslice, length_part hj.2, fun k z hk hz ↦ ?_⟩
    have hlt : i + k < xs.length := by
      have := hj.2
      omega
    have helement := List.getElem?_eq_getElem hlt
    exact ⟨xs[i + k], (getElem?_part xs hk).trans helement,
      (gives_element_list_iff h).mpr ⟨i + k, hz, helement⟩⟩
  append zero x i hzero hi := by
    have hfront : Builtin.Gives host .slice [v, zero, x] (.list (xs.take i) none) :=
      (gives_slice_list_iff h).mpr
        ⟨Nat.le_succ _, 0, i, sliceBounds_pair hzero hi (Nat.zero_le i), rfl⟩
    have hback : Builtin.Gives host .slice [v, x] (.list (xs.drop i) none) := by
      refine (gives_slice_list_iff h).mpr ⟨Nat.le_add_left _ _, i, _, sliceBounds_singleton hi, ?_⟩
      rw [List.take_length]
    refine ⟨_, _, hfront, hback, ?_⟩
    have happend := gives_append_list host (xs.take i) (xs.drop i)
    rwa [List.take_append_drop] at happend

private theorem textParts (host : Host) (h : v.indirect = .text s) : TextParts host v s where
  within indexes w hw := by
    obtain ⟨-, i, j, hbounds, rfl⟩ := (gives_slice_text_iff h).mp hw
    obtain ⟨hij, hj⟩ := sliceBounds_le hbounds
    exact ⟨i, j, hbounds, hij, hj, rfl⟩
  slice_fails indexes := fails_slice_iff (Nat.le_succ _) fun w ↦ gives_slice_text_iff h
  index_fails x := fails_index_iff (fun w ↦ gives_element_text_iff h) fun i ↦ by
    rw [← Text.length_toUTF8]
    constructor
    · rintro ⟨_, b, hb, -⟩
      exact (List.getElem?_eq_some_iff.mp hb).1
    · intro hlt
      exact ⟨_, _, List.getElem?_eq_getElem hlt, rfl⟩
  part x y i j hi hj hij hstart hend := by
    have hslice : Builtin.Gives host .slice [v, x, y] (.text (sliceText s i j)) :=
      (gives_slice_text_iff h).mpr ⟨Nat.le_refl _, i, j, sliceBounds_pair hi hj hij, rfl⟩
    have hbytes := toUTF8_sliceText hstart hend hij
    have hlength : j ≤ s.toUTF8.toList.length := Text.length_toUTF8 s ▸ hj.2
    refine ⟨_, hslice, ?_, fun k z hk hz ↦ ?_⟩
    · rw [← Text.length_toUTF8, hbytes, length_part hlength]
    · have hlt : i + k < s.toUTF8.toList.length := by omega
      have helement := List.getElem?_eq_getElem hlt
      refine ⟨s.toUTF8.toList[i + k], ?_,
        (gives_element_text_iff h).mpr ⟨i + k, hz, _, helement, rfl⟩⟩
      rw [hbytes, getElem?_part _ hk, helement]
  append zero x i hzero hi hstart :=
    ⟨_, _, (gives_slice_text_iff h).mpr
        ⟨Nat.le_refl _, 0, i, sliceBounds_pair hzero hi (Nat.zero_le i), rfl⟩,
      (gives_slice_text_iff h).mpr ⟨Nat.le_succ _, i, _, sliceBounds_singleton hi, rfl⟩,
      sliceText_append hstart⟩

/-- Slices and elements agree and stay within bounds, whatever the arguments are: the bounds of
every part that is taken are in order and within the length, and a call answers with a value or an
error, where a part that is not there would be a panic. -/
theorem slices_agree (host : Host) :
    (∀ v xs cell, v.indirect = .list xs cell → ListParts host v xs) ∧
    (∀ v s, v.indirect = .text s → TextParts host v s) ∧
    (∀ length indexes i j, sliceBounds length indexes = .ok (i, j) → i ≤ j ∧ j ≤ length) ∧
    (∀ args, ((∃ w, Builtin.Gives host .slice args w) ∨ Builtin.Fails host .slice args) ∧
      ((∃ w, Builtin.Gives host .index args w) ∨ Builtin.Fails host .index args)) ∧
    ∀ x ks ls w, ls ≠ [] → (Builtin.Gives host .index (x :: (ks ++ ls)) w ↔
      ∃ y, Builtin.Gives host .index (x :: ks) y ∧ Builtin.Gives host .index (y :: ls) w) :=
  ⟨fun _ _ _ h ↦ listParts host h, fun _ _ h ↦ textParts host h,
    fun _ _ _ _ h ↦ sliceBounds_le h,
    fun args ↦ ⟨slice_gives_or_fails host args, Builtin.gives_or_fails rfl host args⟩,
    fun _ _ _ _ h ↦ gives_index_append_iff h⟩

/-- A slice of a list in an optional, the character in the middle of a text, and the element of an
element. -/
theorem slices_agree_middle :
    (∃ ys, Builtin.Gives .empty .slice
        [.some (.list [.int 5, .int 6, .int 7] none) none, .uint 1, .some (.int 3) none]
        (.list ys none) ∧ ys.length = 2) ∧
      (∃ t, Builtin.Gives .empty .slice [.text "né!", .int 1, .uint 3] (.text t) ∧
        t.utf8ByteSize = 2) ∧
      Builtin.Gives .empty .index [.list [.list [.int 5] none] none, .int 0, .int 0] (.int 5) := by
  obtain ⟨hlist, htext, -, -, hpath⟩ := slices_agree .empty
  refine ⟨?_, ?_, ?_⟩
  · obtain ⟨ys, hgives, hlength, -⟩ :=
      (hlist (.some (.list [.int 5, .int 6, .int 7] none) none) _ _ rfl).part
        (.uint 1) (.some (.int 3) none) 1 3 ⟨rfl, by decide⟩ ⟨rfl, by decide⟩ (by decide)
    exact ⟨ys, hgives, hlength⟩
  · obtain ⟨t, hgives, hsize, -⟩ := (htext (.text "né!") _ rfl).part (.int 1) (.uint 3) 1 3
      ⟨rfl, by decide⟩ ⟨rfl, by decide⟩ (by decide) (by decide) (by decide)
    exact ⟨t, hgives, hsize⟩
  · exact (hpath _ [.int 0] [.int 0] _ (List.cons_ne_nil _ _)).mpr
      ⟨.list [.int 5] none, rfl, rfl⟩

end TextTemplate.Collection
