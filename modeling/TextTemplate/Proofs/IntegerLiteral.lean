import Mathlib.Algebra.Group.Int.Defs
import Mathlib.Data.List.TakeWhile
import TextTemplate.Proofs.Numeral
import TextTemplate.Proofs.Rounding
import TextTemplate.Render.Eval

/-!
# Integer literals

A literal that is written as an integer is stored as that integer under each representation that
has it, but for one case (`Literal.holds_iff`): a decimal integer just below the signed range is
rounded to the least integer of the range on the way through its floating-point number.

It evaluates to its integer where this is a signed one, unless it is of base 16 and its text looks
like that of a floating-point number (`Literal.evaluates_iff`).
-/

set_option autoImplicit false

namespace TextTemplate

open Number (Sign Numeral)

namespace Literal

/-- The mark of a base in front of digits. Decimal digits have none. -/
inductive Mark : List Char → Nat → Prop where
  | decimal : Mark [] 10
  | hexadecimal {c : Char} : c = 'x' ∨ c = 'X' → Mark ['0', c] 16
  | octal {c : Char} : c = 'o' ∨ c = 'O' → Mark ['0', c] 8
  | binary {c : Char} : c = 'b' ∨ c = 'B' → Mark ['0', c] 2

/-- The text denotes an integer in the notation of a base: a sign or none, the mark of the base and
digits, with underscores anywhere. -/
inductive IsInteger (text : String) (base : Nat) : Int → Prop where
  | mk {sign mark digits : List Char} {negative : Bool} {n : Nat} :
      Sign sign negative → Mark mark base → Numeral base digits n →
        text.toList.filter (· ≠ '_') = sign ++ (mark ++ digits) →
          IsInteger text base (if negative then -(n : Int) else n)

/-- The literal of a text has an integer as its value under each representation that has it, and as
floating-point number at most the nearest. -/
structure Holds (text : String) (v : Int) : Prop where
  int (i : Int64) : (parse? text).bind Literal.int = some i ↔ i.toInt = v
  uint (u : UInt64) : (parse? text).bind Literal.uint = some u ↔ (u.toNat : Int) = v
  float (x : Binary64) : (parse? text).bind Literal.float = some x → x = .ofInt v

/-- The decimal integers below the signed range whose nearest floating-point number is the least
integer of the range. -/
def RoundsToLeast (base : Nat) (v : Int) : Prop := base = 10 ∧ -2 ^ 63 - 1024 ≤ v ∧ v < -2 ^ 63

instance (base : Nat) (v : Int) : Decidable (RoundsToLeast base v) :=
  inferInstanceAs (Decidable (_ ∧ _ ∧ _))

private theorem Mark.le_sixteen {mark : List Char} {base : Nat} (h : Mark mark base) :
    base ≤ 16 := by
  cases h with
  | decimal | hexadecimal _ | octal _ | binary _ => decide

variable {text : String} {base n : Nat} {v w : Int} {i : Int64} {u : UInt64} {negative : Bool}
  {sign mark digits cs : List Char}

/-! ### Integers of 64 bits -/

/-- An integer fits the signed one that is the same number. -/
theorem fitSigned_eq_some : fitSigned v = some i ↔ i.toInt = v := by
  have hlow := i.le_toInt
  have hhigh := i.toInt_lt
  have h63 : ((Nat.pow 2 63 : Nat) : Int) = 2 ^ 63 := rfl
  rw [fitSigned, h63]
  constructor
  · intro h
    split at h
    · next hv =>
      cases h
      exact Int64.toInt_ofInt_of_le hv.1 hv.2
    · cases h
  · rintro rfl
    rw [if_pos ⟨hlow, hhigh⟩, Int64.ofInt_toInt]

/-- An integer fits no signed one just if it is beyond their range. -/
theorem fitSigned_eq_none : fitSigned v = none ↔ v < -2 ^ 63 ∨ 2 ^ 63 ≤ v := by
  have h63 : ((Nat.pow 2 63 : Nat) : Int) = 2 ^ 63 := rfl
  rw [fitSigned, h63]
  split <;> simp <;> omega

/-- An integer fits the unsigned one that is the same number. -/
theorem fitUnsigned_eq_some : fitUnsigned v = some u ↔ (u.toNat : Int) = v := by
  have hhigh := u.toNat_lt
  have h64 : ((Nat.pow 2 64 : Nat) : Int) = 2 ^ 64 := rfl
  rw [fitUnsigned, h64]
  constructor
  · intro h
    split at h
    · next hv =>
      cases h
      rw [UInt64.toNat_ofNat']
      omega
    · cases h
  · rintro rfl
    rw [if_pos (by omega), Int.toNat_natCast, UInt64.ofNat_toNat]

private theorem fitUnsigned_natCast (n : Nat) :
    fitUnsigned n = (if n < 2 ^ 64 then some n else none).map UInt64.ofNat := by
  have h64 : ((Nat.pow 2 64 : Nat) : Int) = 2 ^ 64 := rfl
  have hfits : (0 ≤ (n : Int) ∧ (n : Int) < 2 ^ 64) ↔ n < 2 ^ 64 := by omega
  rw [fitUnsigned, h64]
  simp only [hfits, Int.toNat_natCast]
  split
  · rfl
  · rfl

/-- An integer fits no unsigned one just if it is beyond their range. -/
theorem fitUnsigned_eq_none : fitUnsigned v = none ↔ v < 0 ∨ 2 ^ 64 ≤ v := by
  have h64 : ((Nat.pow 2 64 : Nat) : Int) = 2 ^ 64 := rfl
  rw [fitUnsigned, h64]
  split <;> simp <;> omega

/-! ### Taking a text apart -/

private theorem splitRadix_append (h : Mark mark base) (hd : Numeral base digits n) :
    splitRadix (mark ++ digits) = (if base = 10 then none else some base, digits) := by
  cases h with
  | hexadecimal hc | octal hc | binary hc =>
    obtain rfl | rfl := hc
    · rfl
    · rfl
  | decimal =>
    -- what follows a zero among decimal digits announces no base
    rw [List.nil_append, splitRadix.eq_def]
    split
    · next c cs =>
      have hdigit := hd.isDigit (Nat.le_refl 10) (List.mem_cons_of_mem _ List.mem_cons_self)
      have hradix : radixOf c = none := by
        rw [radixOf, if_neg, if_neg, if_neg]
        all_goals
          rintro (rfl | rfl)
          · exact absurd hdigit (by decide)
          · exact absurd hdigit (by decide)
      rw [hradix]
      rfl
    · rfl

/-- Decimal digits are not the name of a number. -/
theorem ofList_map_toLower_ne (hd : Numeral 10 digits n) {name : String} {c : Char}
    (hname : name.toList = c :: cs) (hc : c.isDigit = false) :
    String.ofList (digits.map Char.toLower) ≠ name := by
  intro h
  cases digits with
  | nil => exact hd.ne_nil rfl
  | cons c' digits =>
    obtain ⟨d, hdigit⟩ := hd.exists_isDigit List.mem_cons_self
    have hfirst : c'.toLower = c := by
      rw [← h, String.toList_ofList, List.map_cons] at hname
      exact (List.cons.inj hname).1
    rw [← hfirst, hdigit.isDigit_toLower] at hc
    cases hc

private theorem readDecimal?_digits (hd : Numeral 10 digits n) :
    Number.readDecimal? negative digits = some (.ofDecimal negative n 0) := by
  have hall : ∀ c ∈ digits, c.isDigit = true := fun c hc ↦ hd.isDigit (Nat.le_refl 10) hc
  have hwhole : digits.takeWhile Char.isDigit = digits := List.takeWhile_eq_self_iff.mpr hall
  have hrest : digits.dropWhile Char.isDigit = [] := List.dropWhile_eq_nil_iff.mpr hall
  have hempty : digits.isEmpty = false := by simp [hd.ne_nil]
  simp only [Number.readDecimal?, hwhole, hrest, hempty, List.append_nil, hd.decimalValue_eq]
  rfl

private theorem readFloat?_append (h : Sign sign negative) (hd : Numeral 10 digits n) :
    Number.readFloat? (String.ofList (sign ++ digits)) = some (.ofDecimal negative n 0) := by
  have hsplit : Number.splitSign (sign ++ digits) = (negative, digits) :=
    h.splitSign_append fun c hc ↦ hd.isAlphanum (by decide) hc
  have hinf : String.ofList (digits.map Char.toLower) ≠ "inf" :=
    ofList_map_toLower_ne hd rfl rfl
  have hinfinity : String.ofList (digits.map Char.toLower) ≠ "infinity" :=
    ofList_map_toLower_ne hd rfl rfl
  have hnan : String.ofList (digits.map Char.toLower) ≠ "nan" :=
    ofList_map_toLower_ne hd rfl rfl
  rw [Number.readFloat?, String.toList_ofList, hsplit]
  simp [hinf, hinfinity, hnan, readDecimal?_digits hd]

/-- Numbers without an exponent are rounded as integers, also those that are decided without
computing a power. -/
theorem ofDecimal_zero (negative : Bool) (n : Nat) :
    Binary64.ofDecimal negative n 0 = .ofRatio negative n 1 := by
  rw [Binary64.ofDecimal.eq_def]
  split
  · next hn => rw [hn, Binary64.ofRatio, if_pos rfl]
  · next hn =>
    split
    · next hlarge =>
      have hinf : Binary64.nearestMagnitude n = Binary64.infiniteMagnitude := by
        rw [Binary64.nearestMagnitude, if_neg hn]
        have : Binary64.infiniteMagnitude = 0x7FF * 2 ^ 52 := rfl
        omega
      rw [Binary64.ofRatio_one, hinf]
      rfl
    · rw [if_neg (by omega)]
      show Binary64.ofRatio negative (n * 10 ^ 0) 1 = _
      rw [Nat.pow_zero, Nat.mul_one]

private theorem Mark.isAlphanum (h : Mark mark base) : mark.all Char.isAlphanum = true := by
  cases h with
  | decimal => decide
  | hexadecimal hc | octal hc | binary hc =>
    obtain rfl | rfl := hc
    · decide
    · decide

/-- A number other than zero has the sign that is written. -/
theorem ofDecimal_eq_ofInt (hn : n ≠ 0) (hv : (if negative then -(n : Int) else n) = v) :
    Binary64.ofDecimal negative n 0 = .ofInt v := by
  have habs : v.natAbs = n := by
    split at hv <;> omega
  have hsign : decide (v < 0) = negative := by
    cases negative <;> simp at hv ⊢ <;> omega
  rw [ofDecimal_zero, Binary64.ofInt, habs, hsign]

private theorem isAlphanum_of_mem (h : Mark mark base) (hd : Numeral base digits n) {c : Char}
    (hc : c ∈ mark ++ digits) : c.isAlphanum = true := by
  obtain hc | hc := List.mem_append.mp hc
  · exact List.all_eq_true.mp h.isAlphanum c hc
  · exact hd.isAlphanum h.le_sixteen hc

/-! ### The views of an integer -/

/-- The floating-point number of a literal that denotes an integer. -/
def nearest? (base : Nat) (negative : Bool) (v : Int) : Option Binary64 :=
  if (fitSigned v).isSome || (!negative && (fitUnsigned v).isSome) then some (.ofInt v)
  else if base = 10 then (some (.ofInt v)).filter Binary64.isFinite
  else none

/-- The floating-point number comes from an exact view or from the decimal notation. -/
theorem nearest?_eq (hs : Sign sign negative) (hm : Mark mark base) (hd : Numeral base digits n)
    (hv : (if negative then -(n : Int) else n) = v) :
    (match fitSigned v, (if negative then none else fitUnsigned v) with
      | some i, _ => some (Binary64.ofInt i.toInt)
      | none, some u => some (Binary64.ofInt u.toNat)
      | none, none =>
        if base = 10 then
          (Number.readFloat? (String.ofList (sign ++ (mark ++ digits)))).filter Binary64.isFinite
        else none) = nearest? base negative v := by
  rw [nearest?]
  cases hsigned : fitSigned v with
  | some i =>
    rw [fitSigned_eq_some] at hsigned
    simp [hsigned]
  | none =>
    cases hunsigned : (if negative then none else fitUnsigned v) with
    | some u =>
      cases negative with
      | true => cases hunsigned
      | false =>
        have hu : fitUnsigned v = some u := hunsigned
        rw [hu]
        rw [fitUnsigned_eq_some] at hu
        simp [hu]
    | none =>
      have hnone : (!negative && (fitUnsigned v).isSome) = false := by
        cases negative with
        | true => rfl
        | false => exact Option.isSome_eq_false_iff.mpr (Option.isNone_iff_eq_none.mpr hunsigned)
      have hrounded : Binary64.ofDecimal negative n 0 = .ofInt v := by
        rw [fitSigned_eq_none] at hsigned
        refine ofDecimal_eq_ofInt ?_ hv
        rintro rfl
        cases negative with
        | true | false =>
          subst hv
          contradiction
      simp only [hnone]
      split
      · next hten =>
        subst hten
        have hmark : mark = [] := by
          cases hm
          rfl
        rw [hmark, List.nil_append, readFloat?_append hs hd, hrounded]
        rfl
      · rfl

/-- The views of a literal come from its digits, and from its floating-point number where they give
none. -/
theorem parse?_of_numeral (hs : Sign sign negative) (hm : Mark mark base)
    (hd : Numeral base digits n)
    (hclean : text.toList.filter (· ≠ '_') = sign ++ (mark ++ digits))
    (hv : (if negative then -(n : Int) else n) = v) :
    parse? text =
      let float := nearest? base negative v
      let whole? := float.bind wholeValue?
      let int := fitSigned v <|> whole?.bind fitSigned
      let uint := (if negative then none else fitUnsigned v) <|> whole?.bind fitUnsigned
      if int.isNone && uint.isNone && float.isNone then none
      else some ⟨text, int, uint, float⟩ := by
  have hsplit := hs.splitSign_append fun c hc ↦ isAlphanum_of_mem hm hd hc
  have hradix := splitRadix_append hm hd
  have hbase : (if base = 10 then none else some base).getD 10 = base := by
    split
    · next h => exact h.symm
    · rfl
  have hmagnitude : (Number.readUnsigned base digits).toOption =
      if n < 2 ^ 64 then some n else none := by
    rw [hd.readUnsigned_eq hm.le_sixteen]
    split
    · rfl
    · rfl
  -- an integer whose magnitude is too large to be read fits nowhere
  have hint : ((if n < 2 ^ 64 then some n else none).bind fun m ↦
      fitSigned (if negative then -(m : Int) else m)) = fitSigned v := by
    split
    · rw [Option.bind_some, hv]
    · rw [Option.bind_none, eq_comm, fitSigned_eq_none]
      split at hv
      · omega
      · omega
  have huint : (if negative then none else
      (if n < 2 ^ 64 then some n else none).map UInt64.ofNat) =
        if negative then none else fitUnsigned v := by
    cases negative with
    | true => rfl
    | false =>
      have hn : v = n := hv.symm
      rw [hn, fitUnsigned_natCast]
  have hradix' : (if base = 10 then none else some base).isNone = decide (base = 10) := by
    split <;> simp [*]
  simp only [parse?, hclean, hsplit, hradix, hbase, hmagnitude, hint, huint, hradix',
    decide_eq_true_eq]
  have hfloat := nearest?_eq hs hm hd hv
  generalize nearest? base negative v = float at hfloat ⊢
  subst hfloat
  rfl

/-- The views of a literal of which there is at least one, and none otherwise. -/
theorem bind_views (text : String) (int : Option Int64) (uint : Option UInt64)
    (float : Option Binary64) :
    let l? := if int.isNone && uint.isNone && float.isNone then none
      else some (⟨text, int, uint, float⟩ : Literal)
    l?.bind Literal.int = int ∧ l?.bind Literal.uint = uint ∧ l?.bind Literal.float = float := by
  cases int with
  | some _ => exact ⟨rfl, rfl, rfl⟩
  | none =>
    cases uint with
    | some _ => exact ⟨rfl, rfl, rfl⟩
    | none =>
      cases float with
      | some _ => exact ⟨rfl, rfl, rfl⟩
      | none => exact ⟨rfl, rfl, rfl⟩

/-! ### Whole numbers -/

private theorem wholeValue?_ofInt (h : wholeValue? (.ofInt v) = some w) :
    w = if v < 0 then -((Binary64.ofInt v).wholePart : Int) else (Binary64.ofInt v).wholePart := by
  rw [wholeValue?, Binary64.isNegative_ofInt] at h
  split at h
  · cases h
    simp only [decide_eq_true_eq]
  · cases h

/-- Rounding keeps the order of integers. -/
theorem wholeValue?_mono {a b : Int} (hab : a ≤ b) (ha : wholeValue? (.ofInt a) = some v)
    (hb : wholeValue? (.ofInt b) = some w) : v ≤ w := by
  rw [wholeValue?_ofInt ha, wholeValue?_ofInt hb]
  split
  · split
    · have := Binary64.wholePart_ofInt_mono (a := b) (b := a) (by omega)
      omega
    · omega
  · rw [if_neg (by omega)]
    have := Binary64.wholePart_ofInt_mono (a := a) (b := b) (by omega)
    omega

/-- What is rounded to the least integer of the signed range. -/
theorem wholeValue?_least (h : RoundsToLeast base v) :
    (Binary64.ofInt v).isFinite = true ∧ wholeValue? (.ofInt v) = some (-2 ^ 63) := by
  obtain ⟨-, hlow, hhigh⟩ := h
  have hfinite : (Binary64.ofInt v).isFinite = true := by
    have hle : (Binary64.ofInt v).magnitude ≤ (Binary64.ofInt (-2 ^ 63 - 1024)).magnitude := by
      rw [Binary64.magnitude_ofInt, Binary64.magnitude_ofInt]
      exact Binary64.nearestMagnitude_mono (by omega)
    have hlt : (Binary64.ofInt (-2 ^ 63 - 1024)).magnitude < Binary64.infiniteMagnitude := by decide
    exact decide_eq_true (Nat.lt_of_le_of_lt hle hlt)
  have hwhole : wholeValue? (.ofInt v) = some (if (Binary64.ofInt v).isNegative then
      -((Binary64.ofInt v).wholePart : Int) else (Binary64.ofInt v).wholePart) :=
    if_pos (Binary64.isWhole_ofInt (by omega) hfinite)
  have hleast : wholeValue? (.ofInt (-2 ^ 63)) = some (-2 ^ 63) := by decide
  have hbelow : wholeValue? (.ofInt (-2 ^ 63 - 1024)) = some (-2 ^ 63) := by decide
  have hle := wholeValue?_mono (Int.le_of_lt hhigh) hwhole hleast
  have hge := wholeValue?_mono hlow hbelow hwhole
  exact ⟨hfinite, hwhole.trans (congrArg some (Int.le_antisymm hle hge))⟩

/-! ### The value of an integer literal -/

private theorem nearest?_eq_some {x : Binary64} (h : nearest? base negative v = some x) :
    x = .ofInt v := by
  rw [nearest?] at h
  split at h
  · exact (Option.some.inj h).symm
  · split at h
    · rw [Option.filter_eq_some_iff] at h
      exact (Option.some.inj h.1).symm
    · cases h

/-- An integer that fits as a signed one is not changed by the way through its floating-point
number, and one that does not fit becomes the least integer of the range or none. -/
theorem fitSigned_orElse (hv : (if negative then -(n : Int) else n) = v) :
    (fitSigned v <|> ((nearest? base negative v).bind wholeValue?).bind fitSigned) =
      if RoundsToLeast base v then some Int64.minValue else fitSigned v := by
  cases hfit : fitSigned v with
  | some i =>
    have hlow := i.le_toInt
    rw [fitSigned_eq_some.mp hfit] at hlow
    rw [if_neg fun h ↦ absurd h.2.2 (by omega)]
    rfl
  | none =>
    rw [Option.orElse_eq_orElse, Option.orElse_none]
    split
    · next hleast =>
      obtain ⟨hfinite, hwhole⟩ := wholeValue?_least hleast
      have hnearest : nearest? base negative v = some (.ofInt v) := by
        rw [nearest?, if_pos hleast.1, Option.filter_some, if_pos hfinite, ite_self]
      rw [hnearest, Option.bind_some, hwhole]
      decide
    · next hleast =>
      rw [Option.bind_eq_none_iff]
      intro w hw
      obtain ⟨x, hx, hwhole⟩ := Option.bind_eq_some_iff.mp hw
      rw [nearest?_eq_some hx] at hwhole
      rw [fitSigned_eq_none]
      obtain hlow | hhigh := fitSigned_eq_none.mp hfit
      · have hneg : negative = true := by
          cases negative with
          | true => rfl
          | false => simp at hv; omega
        have hbase : base = 10 := by
          by_contra hbase
          rw [nearest?, hfit, hneg, if_neg hbase] at hx
          cases hx
        have hbelow : wholeValue? (.ofInt (-2 ^ 63 - 1025)) = some (-2 ^ 63 - 2048) := by decide
        have hle : v ≤ -2 ^ 63 - 1025 := by
          by_contra hle
          exact hleast ⟨hbase, by omega, hlow⟩
        have := wholeValue?_mono hle hwhole hbelow
        omega
      · have hbound : wholeValue? (.ofInt (2 ^ 63)) = some (2 ^ 63) := by decide
        have := wholeValue?_mono hhigh hbound hwhole
        omega

/-- An integer that fits as an unsigned one is not changed by the way through its floating-point
number, and one that does not fit does not become one that does. -/
theorem fitUnsigned_orElse (hv : (if negative then -(n : Int) else n) = v) :
    ((if negative then none else fitUnsigned v) <|>
      ((nearest? base negative v).bind wholeValue?).bind fitUnsigned) = fitUnsigned v := by
  have hnone (hfit : fitUnsigned v = none) :
      ((nearest? base negative v).bind wholeValue?).bind fitUnsigned = none := by
    rw [Option.bind_eq_none_iff]
    intro w hw
    obtain ⟨x, hx, hwhole⟩ := Option.bind_eq_some_iff.mp hw
    rw [nearest?_eq_some hx] at hwhole
    rw [fitUnsigned_eq_none]
    obtain hlow | hhigh := fitUnsigned_eq_none.mp hfit
    · have hbound : wholeValue? (.ofInt (-1)) = some (-1) := by decide
      have := wholeValue?_mono (Int.le_sub_one_of_lt hlow) hwhole hbound
      omega
    · have hbound : wholeValue? (.ofInt (2 ^ 64)) = some (2 ^ 64) := by decide
      have := wholeValue?_mono hhigh hbound hwhole
      omega
  cases negative with
  | false =>
    cases hfit : fitUnsigned v with
    | some u => rfl
    | none => exact hnone hfit
  | true =>
    -- with a minus sign only zero fits, and it is found through the negative zero
    by_cases hzero : v = 0
    · have hnearest : nearest? base true v = some (.ofInt 0) := by
        rw [hzero, nearest?]
        exact if_pos (by decide)
      have hwhole : wholeValue? (.ofInt 0) = some 0 := by decide +kernel
      rw [hnearest, Option.bind_some, hwhole, hzero]
      rfl
    · have hfit : fitUnsigned v = none := by
        rw [fitUnsigned_eq_none]
        simp at hv
        omega
      rw [hfit]
      exact hnone hfit

/-- How an integer literal is read. -/
theorem IsInteger.parse?_eq (h : IsInteger text base v) :
    ∃ negative, parse? text =
      let int := if RoundsToLeast base v then some Int64.minValue else fitSigned v
      let uint := fitUnsigned v
      let float := nearest? base negative v
      if int.isNone && uint.isNone && float.isNone then none
      else some ⟨text, int, uint, float⟩ := by
  obtain @⟨sign, mark, digits, negative, n, hs, hm, hd, hclean⟩ := h
  refine ⟨negative, ?_⟩
  rw [parse?_of_numeral hs hm hd hclean rfl]
  dsimp only
  rw [fitSigned_orElse rfl, fitUnsigned_orElse rfl]

/-- An integer literal has its integer as value under each representation that has it, except for
the decimal ones that are rounded to the least integer of the signed range. -/
theorem holds_iff (h : IsInteger text base v) :
    (Holds text v ↔ ¬ RoundsToLeast base v) ∧
      (RoundsToLeast base v → (parse? text).bind Literal.int = some Int64.minValue ∧
        (parse? text).bind Literal.uint = none) := by
  obtain ⟨negative, hparse⟩ := h.parse?_eq
  obtain ⟨hint, huint, hfloat⟩ := bind_views text
    (if RoundsToLeast base v then some Int64.minValue else fitSigned v) (fitUnsigned v)
    (nearest? base negative v)
  rw [← hparse] at hint huint hfloat
  refine ⟨⟨fun hholds hleast ↦ ?_, fun hleast ↦ ⟨fun i ↦ ?_, fun u ↦ ?_, fun x hx ↦ ?_⟩⟩,
    fun hleast ↦ ⟨?_, ?_⟩⟩
  · rw [if_pos hleast] at hint
    have hmin := (hholds.int _).mp hint
    have hlow := hleast.2.2
    rw [← hmin] at hlow
    exact absurd hlow (by decide)
  · rw [hint, if_neg hleast, fitSigned_eq_some]
  · rw [huint, fitUnsigned_eq_some]
  · exact nearest?_eq_some (hfloat.symm.trans hx)
  · rw [hint, if_pos hleast]
  · rw [huint, fitUnsigned_eq_none]
    exact .inl (by have := hleast.2.2; omega)

/-- The least signed integer itself is no such exception. -/
theorem holds_minValue : Holds "-9_223_372_036_854_775_808" (-2 ^ 63) := by
  have h : IsInteger "-9_223_372_036_854_775_808" 10 (-2 ^ 63) :=
    .mk .minus .decimal (.toDigits (by decide) (2 ^ 63)) (by decide +kernel)
  exact (holds_iff h).1.mpr (by decide)

/-- The integer below the least signed one is stored as that one. -/
theorem not_holds_below :
    IsInteger "-9223372036854775809" 10 (-2 ^ 63 - 1) ∧
      (parse? "-9223372036854775809").bind Literal.int = some Int64.minValue ∧
        ¬ Holds "-9223372036854775809" (-2 ^ 63 - 1) := by
  have hint : (parse? "-9223372036854775809").bind Literal.int = some Int64.minValue := by
    decide +kernel
  refine ⟨.mk .minus .decimal (.toDigits (by decide) (2 ^ 63 + 1)) (by decide +kernel), hint, ?_⟩
  intro h
  exact absurd ((h.int _).mp hint) (by decide)

/-! ### The type of an integer literal -/

/-- The text of a literal of base 16 has an `e` among its digits and does not begin with the
mark. -/
def LooksLikeFloat (base : Nat) (text : String) : Prop :=
  base = 16 ∧ ¬ (['0', 'x'] <+: text.toList ∨ ['0', 'X'] <+: text.toList) ∧
    ('e' ∈ text.toList ∨ 'E' ∈ text.toList)

instance (base : Nat) (text : String) : Decidable (LooksLikeFloat base text) :=
  inferInstanceAs (Decidable (_ ∧ ¬ (_ ∨ _) ∧ (_ ∨ _)))

/-- The characters of an integer literal. Only base 16 has letters as digits. -/
theorem IsInteger.of_mem (h : IsInteger text base v) {c : Char} (hc : c ∈ text.toList) :
    c ∈ ['_', '+', '-', 'o', 'O', 'b', 'B'] ∨ c.isDigit = true ∨
      base = 16 ∧ c.isAlphanum = true := by
  obtain @⟨sign, mark, digits, negative, n, hs, hm, hd, hclean⟩ := h
  by_cases hunderscore : c = '_'
  · exact .inl (by simp [hunderscore])
  have hmem : c ∈ sign ++ (mark ++ digits) := by
    rw [← hclean, List.mem_filter]
    exact ⟨hc, by simpa using hunderscore⟩
  rw [List.mem_append] at hmem
  obtain hmem | hmem := hmem
  · cases hs <;> simp at hmem <;> simp [hmem]
  · have halpha := isAlphanum_of_mem hm hd hmem
    rw [List.mem_append] at hmem
    cases hm with
    | hexadecimal _ => exact .inr (.inr ⟨rfl, halpha⟩)
    | decimal =>
      exact .inr (.inl (hd.isDigit (by decide) (hmem.resolve_left List.not_mem_nil)))
    | octal hmark | binary hmark =>
      obtain hmem | hmem := hmem
      · obtain rfl | rfl := hmark
        all_goals
          simp at hmem
          obtain rfl | rfl := hmem <;> simp
      · exact .inr (.inl (hd.isDigit (by decide) hmem))

/-- An integer literal has no point, and an `e` only as a digit of base 16. -/
theorem IsInteger.eq_sixteen (h : IsInteger text base v) {c : Char} (hc : c ∈ text.toList)
    (hfloat : (c = '.' ∨ c = 'e') ∨ c = 'E') : base = 16 ∧ (c = 'e' ∨ c = 'E') := by
  have hmem := h.of_mem hc
  obtain (rfl | rfl) | rfl := hfloat
  · exact absurd hmem (by simp)
  · simpa using hmem
  · simpa using hmem

/-- When an integer literal is taken to be written as a floating-point number. -/
theorem IsInteger.isFloatSyntax_iff (h : IsInteger text base v) {l : Literal}
    (htext : l.text = text) : l.isFloatSyntax = true ↔ LooksLikeFloat base text := by
  simp only [isFloatSyntax, LooksLikeFloat, htext, Bool.and_eq_true, Bool.not_eq_true',
    ← Bool.not_eq_true, Bool.or_eq_true, List.isPrefixOf_iff_prefix, List.any_eq_true,
    decide_eq_true_eq]
  constructor
  · rintro ⟨hmark, c, hc, hfloat⟩
    obtain ⟨hbase, rfl | rfl⟩ := h.eq_sixteen hc hfloat
    · exact ⟨hbase, hmark, .inl hc⟩
    · exact ⟨hbase, hmark, .inr hc⟩
  · rintro ⟨-, hmark, hc | hc⟩
    · exact ⟨hmark, 'e', hc, .inl (.inr rfl)⟩
    · exact ⟨hmark, 'E', hc, .inr rfl⟩

/-- How an integer literal is read whose integer fits as a signed one. -/
theorem IsInteger.parse?_signed (h : IsInteger text base i.toInt) :
    parse? text = some ⟨text, some i, fitUnsigned i.toInt, some (.ofInt i.toInt)⟩ := by
  obtain ⟨negative, hparse⟩ := h.parse?_eq
  have hleast : ¬ RoundsToLeast base i.toInt := fun hleast ↦
    absurd hleast.2.2 (by have := i.le_toInt; omega)
  have hfit : fitSigned i.toInt = some i := fitSigned_eq_some.mpr rfl
  have hnearest : nearest? base negative i.toInt = some (.ofInt i.toInt) := by
    rw [nearest?, hfit]
    rfl
  rw [hparse, if_neg hleast, hfit, hnearest]
  rfl

/-- The value of a number as an operand. -/
theorem eval_number {l : Literal} {value : Value} (hl : l.value = .ok value) (host : Host)
    (dot : Value) (span : Span) (s : State) :
    (OperandForm.number l).eval host dot span [] .invalid s = .done (.ok value, s) := by
  show Walk.ofExcept l.value s = _
  rw [hl]
  rfl

/-- An integer literal evaluates to its integer, except for those of base 16 that look like a
floating-point number, which evaluate to one. -/
theorem evaluates_iff (h : IsInteger text base i.toInt) :
    ∃ l, parse? text = some l ∧ ∀ host dot span s,
      let run := (OperandForm.number l).eval host dot span [] .invalid s
      (run = .done (.ok (.int i), s) ↔ ¬ LooksLikeFloat base text) ∧
        (LooksLikeFloat base text → run = .done (.ok (.float (.ofInt i.toInt)), s)) := by
  obtain ⟨l, hl⟩ : ∃ l : Literal, l = ⟨text, some i, fitUnsigned i.toInt, some (.ofInt i.toInt)⟩ :=
    ⟨_, rfl⟩
  refine ⟨l, hl ▸ h.parse?_signed, fun host dot span s ↦ ?_⟩
  have hlike := h.isFloatSyntax_iff (congrArg Literal.text hl)
  by_cases hlooks : LooksLikeFloat base text
  · have hvalue : l.value = .ok (.float (.ofInt i.toInt)) := by
      rw [Literal.value, if_pos (hlike.mpr hlooks), hl]
    have hfloat := eval_number hvalue host dot span s
    refine ⟨⟨fun hint ↦ ?_, fun hnot ↦ absurd hlooks hnot⟩, fun _ ↦ hfloat⟩
    rw [hfloat] at hint
    cases hint
  · have hvalue : l.value = .ok (.int i) := by
      rw [Literal.value, if_neg (hlike.not.mpr hlooks), hl]
    have hint := eval_number hvalue host dot span s
    exact ⟨⟨fun _ ↦ hlooks, fun _ ↦ hint⟩, fun h ↦ absurd h hlooks⟩

/-- An `e` among the digits does no harm where the mark comes first. -/
theorem evaluates_sixteen :
    ∃ l, parse? "0x_1E" = some l ∧ ∀ host dot span s,
      (OperandForm.number l).eval host dot span [] .invalid s = .done (.ok (.int 30), s) := by
  have hdigits : Numeral 16 ['1', 'E'] 30 :=
    (Numeral.toDigits (by decide) 30).map_toUpper (by decide)
  have h : IsInteger "0x_1E" 16 (30 : Int64).toInt :=
    .mk .none (.hexadecimal (.inl rfl)) hdigits (by decide)
  obtain ⟨l, hl, hrun⟩ := evaluates_iff h
  exact ⟨l, hl, fun host dot span s ↦ (hrun host dot span s).1.mpr (by decide)⟩

/-- With a sign in front of the mark it makes the number a floating-point one. -/
theorem not_int_signed :
    IsInteger "-0x1e" 16 (-30) ∧ ∃ l, parse? "-0x1e" = some l ∧
      ∀ host dot span s, (OperandForm.number l).eval host dot span [] .invalid s =
        .done (.ok (.float (.ofInt (-30))), s) := by
  have hdigits : Numeral 16 ['1', 'e'] 30 := .toDigits (by decide) 30
  have hvalue : Literal.value ⟨"-0x1e", some (-30), none, some (.ofInt (-30))⟩ =
      .ok (.float (.ofInt (-30))) := rfl
  exact ⟨.mk .minus (.hexadecimal (.inl rfl)) hdigits (by decide), _, by decide +kernel,
    eval_number hvalue⟩

end Literal

end TextTemplate
