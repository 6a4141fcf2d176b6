import TextTemplate.Proofs.Rounding
import TextTemplate.Value.Key

/-!
# The order of keys

The order of keys is a total order (`Key.order_strict_total`): any two keys are comparable, only
equal keys count as one, and the order is transitive. Integers compare exactly with each other but
by their nearest number with a floating-point number, so that this is not evident. Since rounding
keeps the order of integers (`Binary64.rank_ofInt_mono`), the comparison goes by the nearest number
in every case, and then by the exact integer where the numbers tie (`Key.order_eq_byParts`).
-/

set_option autoImplicit false

namespace TextTemplate.Key

/-! ### The parts of a key -/

def truth : Key → Bool
  | bool b => b
  | _ => false

def letters : Key → String
  | text s => s
  | _ => ""

/-- The place of the number that is nearest to a key. -/
def nearestRank : Key → Int
  | int n => (Binary64.ofInt n.toInt).rank
  | uint n => (Binary64.ofInt n.toNat).rank
  | float x => x.rank
  | _ => 0

def isFloat : Key → Bool
  | float _ => true
  | _ => false

/-- The integer that a key is. -/
def exact : Key → Int
  | int n => n.toInt
  | uint n => n.toNat
  | _ => 0

/-- The comparison of keys by one part after the other. -/
def byParts : Key → Key → Ordering :=
  compareLex (compareOn classRank) <| compareLex (compareOn truth) <|
    compareLex (compareOn letters) <| compareLex (compareOn nearestRank) <|
      compareLex (compareOn isFloat) <| compareLex (compareOn exact) (compareOn kindRank)

private theorem byParts_eq (a b : Key) :
    byParts a b =
      (compare a.classRank b.classRank).then ((compare a.truth b.truth).then
        ((compare a.letters b.letters).then ((compare a.nearestRank b.nearestRank).then
          ((compare a.isFloat b.isFloat).then ((compare a.exact b.exact).then
            (compare a.kindRank b.kindRank)))))) :=
  rfl

/-! ### The order by parts -/

/-- Integers compare by their nearest numbers first. -/
theorem compare_nearest (m n : Int) (o : Ordering) :
    (compare (Binary64.ofInt m).rank (Binary64.ofInt n).rank).then ((compare m n).then o) =
      (compare m n).then o := by
  obtain h | rfl | h := Int.lt_trichotomy m n
  · have hle := Binary64.rank_ofInt_mono (Int.le_of_lt h)
    rw [Int.compare_eq_lt.mpr h]
    cases hc : compare (Binary64.ofInt m).rank (Binary64.ofInt n).rank with
    | lt | eq => rfl
    | gt => exact absurd (Int.compare_eq_gt.mp hc) (Int.not_lt.mpr hle)
  · rw [Std.compare_self, Std.compare_self]
    rfl
  · have hle := Binary64.rank_ofInt_mono (Int.le_of_lt h)
    rw [Int.compare_eq_gt.mpr h]
    cases hc : compare (Binary64.ofInt m).rank (Binary64.ofInt n).rank with
    | gt | eq => rfl
    | lt => exact absurd (Int.compare_eq_lt.mp hc) (Int.not_lt.mpr hle)

/-- Keys of one class compare by the parts that this class has. -/
theorem order_eq_byParts (a b : Key) : a.order b = byParts a b := by
  rw [byParts_eq]
  cases a with
  | bool x =>
    cases b with
    | bool y => exact Ordering.then_eq.symm
    | int _ | uint _ | float _ | text _ => rfl
  | int x =>
    cases b with
    | int y => exact (compare_nearest x.toInt y.toInt .eq).symm
    | uint y =>
      show (Number.compareSigned x y).then .lt = _
      rw [Number.compareSigned_eq]
      exact (compare_nearest x.toInt y.toNat .lt).symm
    | float _ | bool _ | text _ => rfl
  | uint x =>
    cases b with
    | int y =>
      show (Number.compareUnsigned x y).then .gt = _
      rw [Number.compareUnsigned_eq]
      exact (compare_nearest x.toNat y.toInt .gt).symm
    | uint y =>
      show (compare x.toNat y.toNat).then .eq = _
      rw [Number.compare_toNat]
      exact (compare_nearest x.toNat y.toNat .eq).symm
    | float _ | bool _ | text _ => rfl
  | float x =>
    cases b with
    | float _ | int _ | uint _ | bool _ | text _ => rfl
  | text x =>
    cases b with
    | text y => exact Ordering.then_eq.symm
    | int _ | uint _ | float _ | bool _ => rfl

/-- A key is known by its parts. -/
theorem eq_of_byParts {a b : Key} (h : byParts a b = .eq) : a = b := by
  simp only [byParts_eq, Ordering.then_eq_eq, Std.compare_eq_iff_eq] at h
  obtain ⟨hclass, htruth, hletters, hnearest, hfloat, hexact, hkind⟩ := h
  cases a with
  | bool x =>
    cases b with
    | bool y => exact congrArg bool htruth
    | int _ | uint _ | float _ | text _ => cases hclass
  | int x =>
    cases b with
    | int y => exact congrArg int (Int64.toInt_inj.mp hexact)
    | uint _ => cases hkind
    | float _ => cases hfloat
    | bool _ | text _ => cases hclass
  | uint x =>
    cases b with
    | uint y => exact congrArg uint (UInt64.toNat_inj.mp (Int.ofNat_inj.mp hexact))
    | int _ => cases hkind
    | float _ => cases hfloat
    | bool _ | text _ => cases hclass
  | float x =>
    cases b with
    | float y => exact congrArg float (Binary64.rank_injective hnearest)
    | int _ | uint _ => cases hfloat
    | bool _ | text _ => cases hclass
  | text x =>
    cases b with
    | text y => exact congrArg text hletters
    | int _ | uint _ | float _ | bool _ => cases hclass

instance : Std.TransCmp order := by
  have h : order = byParts := funext fun a ↦ funext fun b ↦ order_eq_byParts a b
  rw [h]
  exact inferInstanceAs (Std.TransCmp (compareLex _ _))

instance : Std.LawfulEqCmp order where
  eq_of_compare {a b} h := eq_of_byParts ((order_eq_byParts a b).symm.trans h)

/-- A key is equal to itself. -/
theorem order_self (k : Key) : k.order k = .eq := Std.ReflCmp.compare_self

/-- Keys that compare as equal are the same. -/
theorem eq_of_order {a b : Key} (h : a.order b = .eq) : a = b := Std.LawfulEqCmp.eq_of_compare h

/-- A key that is less than another one is not that one. -/
theorem ne_of_order_lt {a b : Key} (h : a.order b = .lt) : a ≠ b := by
  rintro rfl
  rw [order_self] at h
  cases h

/-- A key is greater than another one just if that one is less. -/
theorem order_gt_iff {a b : Key} : a.order b = .gt ↔ b.order a = .lt := Std.OrientedCmp.gt_iff_lt

/-! ### Laws -/

/-- The integer that a key of either kind of integers is. -/
def integer? : Key → Option Int
  | int n => some n.toInt
  | uint n => some n.toNat
  | _ => none

/-- Integers are ordered by value, and equal ones by kind. -/
theorem order_of_integer? {a b : Key} {m n : Int} (ha : a.integer? = some m)
    (hb : b.integer? = some n) :
    a.order b = (compare m n).then (compare a.kindRank b.kindRank) := by
  cases a with
  | int x =>
    cases ha
    cases b with
    | int y =>
      cases hb
      rfl
    | uint y =>
      cases hb
      rw [← Number.compareSigned_eq]
      rfl
    | float _ | bool _ | text _ => cases hb
  | uint x =>
    cases ha
    cases b with
    | int y =>
      cases hb
      rw [← Number.compareUnsigned_eq]
      rfl
    | uint y =>
      cases hb
      rw [← Number.compare_toNat]
      rfl
    | float _ | bool _ | text _ => cases hb
  | float _ | bool _ | text _ => cases ha

/-- The order of keys is a strict total order that tells all keys apart: the other way round it is
the reverse, it is transitive for keys of all kinds, and it counts two keys as one only if they are
of one kind and have one value, which is the bit pattern of a floating-point number. Integers of
both kinds are ordered by value. -/
theorem order_strict_total :
    (∀ a b : Key, a.order b = (b.order a).swap) ∧
    (∀ a b c : Key, a.order b = .lt → b.order c = .lt → a.order c = .lt) ∧
    (∀ a b : Key, a.order b = .eq ↔ a = b) ∧
    ∀ (a b : Key) (m n : Int), a.integer? = some m → b.integer? = some n →
      a.order b = (compare m n).then (compare a.kindRank b.kindRank) := by
  refine ⟨fun a b ↦ Std.OrientedCmp.eq_swap, fun a b c ↦ Std.TransCmp.lt_trans, ?_,
    fun a b m n ↦ order_of_integer?⟩
  intro a b
  constructor
  · exact eq_of_order
  · rintro rfl
    exact order_self a

/-- Three keys that tie as floating-point numbers: the integer between two numbers is rounded down
to the first of them. -/
theorem order_strict_total_tied :
    (int 9007199254740992).order (uint 9007199254740993) = .lt ∧
      (uint 9007199254740993).order (float ⟨0x4340000000000000⟩) = .lt ∧
      (int 9007199254740992).order (float ⟨0x4340000000000000⟩) = .lt := by
  obtain ⟨-, trans, -, integers⟩ := order_strict_total
  have hexact : (int 9007199254740992).order (uint 9007199254740993) = .lt :=
    (integers _ _ 9007199254740992 9007199254740993 (by decide) (by decide)).trans (by decide)
  have hnearest : (uint 9007199254740993).order (float ⟨0x4340000000000000⟩) = .lt := by
    decide +kernel
  exact ⟨hexact, hnearest, trans _ _ _ hexact hnearest⟩

end TextTemplate.Key
