import Mathlib.Algebra.Group.Nat.Defs
import TextTemplate.Number.Binary64

/-!
# Integers as floating-point numbers

The number nearest to an integer does not get less where the integer gets greater
(`Binary64.rank_ofInt_mono`). The magnitude of the nearest number is that of a significand of 53
bits, the quotient of the integer by a power of two, with an exponent; a significand that is rounded
up to the next power of two has the magnitude of the next exponent. The part of a number before the
point grows with its magnitude (`Binary64.wholePart_mono`).
-/

set_option autoImplicit false

namespace TextTemplate.Binary64

/-! ### Rounded quotients -/

private theorem roundDiv_mul_right (a b : Nat) {c : Nat} (hc : 0 < c) :
    roundDiv (a * c) (b * c) = roundDiv a b := by
  have hdiv : a * c / (b * c) = a / b := Nat.mul_div_mul_right a b hc
  have hmod : a * c % (b * c) = a % b * c := Nat.mul_mod_mul_right c a b
  have hdown : 2 * (a % b * c) < b * c ↔ 2 * (a % b) < b := by
    rw [← Nat.mul_assoc]
    exact Nat.mul_lt_mul_right hc
  have hup : b * c < 2 * (a % b * c) ↔ b < 2 * (a % b) := by
    rw [← Nat.mul_assoc]
    exact Nat.mul_lt_mul_right hc
  simp only [roundDiv, hdiv, hmod, hdown, hup]

/-- Equal quotients are rounded alike. -/
theorem roundDiv_congr {a b c d : Nat} (hb : 0 < b) (hd : 0 < d) (h : a * d = c * b) :
    roundDiv a b = roundDiv c d := by
  rw [← roundDiv_mul_right a b hd, ← roundDiv_mul_right c d hb, h, Nat.mul_comm b d]

/-- A whole quotient is not rounded. -/
theorem roundDiv_mul_self (k : Nat) {den : Nat} (hd : 0 < den) : roundDiv (k * den) den = k := by
  have hpos : 2 * 0 < den := hd
  simp only [roundDiv, Nat.mul_div_cancel k hd, Nat.mul_mod_left, if_pos hpos]

private theorem div_le_roundDiv (a den : Nat) : a / den ≤ roundDiv a den := by
  dsimp only [roundDiv]
  split
  · exact Nat.le_refl _
  · split
    · exact Nat.le_succ _
    · exact Nat.le_add_right _ _

private theorem roundDiv_le (a den : Nat) : roundDiv a den ≤ a / den + 1 := by
  dsimp only [roundDiv]
  split
  · exact Nat.le_succ _
  · split
    · exact Nat.le_refl _
    · exact Nat.add_le_add_left (Nat.le_of_lt_succ (Nat.mod_lt _ Nat.two_pos)) _

private theorem roundDiv_mono {a b : Nat} (h : a ≤ b) (den : Nat) :
    roundDiv a den ≤ roundDiv b den := by
  obtain hlt | heq := Nat.lt_or_eq_of_le (Nat.div_le_div_right (c := den) h)
  · calc roundDiv a den ≤ a / den + 1 := roundDiv_le a den
      _ ≤ b / den := hlt
      _ ≤ roundDiv b den := div_le_roundDiv b den
  · -- with one quotient, the greater remainder is rounded up if the less one is
    have hr : a % den ≤ b % den := by
      have ha := Nat.div_add_mod a den
      have hb := Nat.div_add_mod b den
      rw [heq] at ha
      omega
    simp only [roundDiv, heq]
    split
    · exact div_le_roundDiv b den
    · split
      · exact Nat.le_of_eq (by rw [if_neg (by omega), if_pos (by omega)])
      · split
        · omega
        · split
          · omega
          · exact Nat.le_refl _

/-! ### Significands -/

/-- The significand of the number nearest to a positive integer, with 53 bits, or with a further one
if it is rounded up to a power of two. -/
def significand (n : Nat) : Nat := roundDiv (n * 2 ^ 52) (2 ^ n.log2)

/-- The magnitude of the number nearest to a natural number. -/
def nearestMagnitude (n : Nat) : Nat :=
  if n = 0 then 0 else min infiniteMagnitude ((n.log2 + 1022) * 2 ^ 52 + significand n)

private theorem le_significand {n : Nat} (hn : n ≠ 0) : 2 ^ 52 ≤ significand n := by
  have hpos : 0 < 2 ^ n.log2 := Nat.two_pow_pos _
  have hle : 2 ^ 52 * 2 ^ n.log2 ≤ n * 2 ^ 52 := by
    rw [Nat.mul_comm]
    exact Nat.mul_le_mul_right _ (Nat.log2_self_le hn)
  calc 2 ^ 52 = roundDiv (2 ^ 52 * 2 ^ n.log2) (2 ^ n.log2) := (roundDiv_mul_self _ hpos).symm
    _ ≤ significand n := roundDiv_mono hle _

private theorem significand_le (n : Nat) : significand n ≤ 2 ^ 53 := by
  have hpos : 0 < 2 ^ n.log2 := Nat.two_pow_pos _
  have hle : n * 2 ^ 52 ≤ 2 ^ 53 * 2 ^ n.log2 := by
    have hlt : n < 2 ^ (n.log2 + 1) := Nat.lt_log2_self
    rw [Nat.pow_succ] at hlt
    omega
  calc significand n ≤ roundDiv (2 ^ 53 * 2 ^ n.log2) (2 ^ n.log2) := roundDiv_mono hle _
    _ = 2 ^ 53 := roundDiv_mul_self _ hpos

/-- Rounding to a magnitude is monotone. -/
theorem nearestMagnitude_mono {a b : Nat} (h : a ≤ b) :
    nearestMagnitude a ≤ nearestMagnitude b := by
  by_cases ha : a = 0
  · rw [nearestMagnitude, if_pos ha]
    exact Nat.zero_le _
  have hb : b ≠ 0 := fun hb ↦ ha (Nat.le_zero.mp (hb ▸ h))
  rw [nearestMagnitude, nearestMagnitude, if_neg ha, if_neg hb]
  have hlog : a.log2 ≤ b.log2 := (Nat.le_log2 hb).mpr (Nat.le_trans (Nat.log2_self_le ha) h)
  have hle : (a.log2 + 1022) * 2 ^ 52 + significand a ≤
      (b.log2 + 1022) * 2 ^ 52 + significand b := by
    obtain hlt | heq := Nat.lt_or_eq_of_le hlog
    · -- the least significand of a greater exponent is not below the greatest of a less one
      have := significand_le a
      have := le_significand hb
      omega
    · have hs : significand a ≤ significand b := by
        rw [significand, significand, heq]
        exact roundDiv_mono (Nat.mul_le_mul_right _ h) _
      omega
  omega

private theorem nearestMagnitude_lt (n : Nat) : nearestMagnitude n < 2 ^ 63 := by
  have hinf : infiniteMagnitude < 2 ^ 63 := by decide
  rw [nearestMagnitude]
  split
  · exact Nat.two_pow_pos _
  · omega

/-! ### Rounding of integers -/

/-- The two sides of a scaled quotient are in the proportion that the exponent says. -/
theorem scale_one (n : Nat) {log j : Nat} {e : Int} (he : e + j = log) :
    0 < (scale n 1 e).2 ∧ n * 2 ^ j * (scale n 1 e).2 = (scale n 1 e).1 * 2 ^ log := by
  cases e with
  | ofNat k =>
    have hlog : log = j + k := by
      rw [Int.ofNat_eq_natCast] at he
      omega
    show 0 < 1 * 2 ^ k ∧ n * 2 ^ j * (1 * 2 ^ k) = n * 2 ^ log
    rw [Nat.one_mul, Nat.mul_assoc, hlog, Nat.pow_add]
    exact ⟨Nat.two_pow_pos _, rfl⟩
  | negSucc k =>
    have hj : j = k + 1 + log := by omega
    show 0 < 1 ∧ n * 2 ^ j * 1 = n * 2 ^ (k + 1) * 2 ^ log
    rw [Nat.mul_one, Nat.mul_assoc, hj, Nat.pow_add]
    exact ⟨Nat.one_pos, rfl⟩

/-- The unit by which a positive integer is scaled at first is too small, since its logarithm is
exact. -/
theorem le_scale_div {n : Nat} (hn : n ≠ 0) {e : Int} (he : e + 53 = n.log2) :
    2 ^ 53 ≤ (scale n 1 e).1 / (scale n 1 e).2 := by
  obtain ⟨hpos, h⟩ := scale_one n (j := 53) he
  generalize scale n 1 e = unit at hpos h
  rw [Nat.le_div_iff_mul_le hpos]
  apply Nat.le_of_mul_le_mul_right _ (Nat.two_pow_pos n.log2)
  calc 2 ^ 53 * unit.2 * 2 ^ n.log2 = 2 ^ n.log2 * (2 ^ 53 * unit.2) := Nat.mul_comm _ _
    _ ≤ n * (2 ^ 53 * unit.2) := Nat.mul_le_mul_right _ (Nat.log2_self_le hn)
    _ = n * 2 ^ 53 * unit.2 := (Nat.mul_assoc _ _ _).symm
    _ = unit.1 * 2 ^ n.log2 := h

private theorem roundDiv_scale {n : Nat} {e : Int} (he : e + 52 = n.log2) :
    roundDiv (scale n 1 e).1 (scale n 1 e).2 = significand n := by
  obtain ⟨hpos, h⟩ := scale_one n (j := 52) he
  exact roundDiv_congr hpos (Nat.two_pow_pos _) h.symm

/-- A significand that is the next power of two has the magnitude of the next exponent. -/
theorem packMagnitude_significand {n : Nat} (hn : n ≠ 0) {e : Int} (he : e + 52 = n.log2) :
    (if significand n = Nat.pow 2 53 then packMagnitude (Nat.pow 2 52) (e + 1)
      else packMagnitude (significand n) e) = nearestMagnitude n := by
  have hle := le_significand hn
  have hnext : (e + 1 + 1075).toNat = n.log2 + 1024 := by omega
  have hexp : (e + 1075).toNat = n.log2 + 1023 := by omega
  have hcarry : (n.log2 + 1024) * 2 ^ 52 = (n.log2 + 1022) * 2 ^ 52 + 2 ^ 53 := by omega
  have hsum : (n.log2 + 1023) * 2 ^ 52 + (significand n - 2 ^ 52) =
      (n.log2 + 1022) * 2 ^ 52 + significand n := by
    rw [Nat.succ_mul, Nat.add_assoc, Nat.add_sub_cancel' hle]
  have h52 : Nat.pow 2 52 = 2 ^ 52 := rfl
  have h53 : Nat.pow 2 53 = 2 ^ 53 := rfl
  rw [nearestMagnitude, if_neg hn, h52, h53]
  split
  · next h =>
    rw [packMagnitude, h52, if_neg (Nat.lt_irrefl _), hnext, Nat.sub_self, Nat.add_zero, hcarry, h]
  · rw [packMagnitude, h52, if_neg (Nat.not_lt.mpr hle), hexp, hsum]

/-- A number over one is rounded as the number. -/
theorem ofRatio_one (negative : Bool) (n : Nat) :
    ofRatio negative n 1 = ofMagnitude negative (nearestMagnitude n) := by
  rw [ofRatio]
  split
  · next hn => rw [nearestMagnitude, if_pos hn]
  · next hn =>
    have hlog : Nat.log2 1 = 0 := rfl
    have he : max (-1074) ((n.log2 : Int) - (Nat.log2 1 : Nat) - 53) = (n.log2 : Int) - 53 := by
      rw [hlog]
      omega
    have hunit : Nat.pow 2 53 ≤
        (scale n 1 ((n.log2 : Int) - 53)).1 / (scale n 1 ((n.log2 : Int) - 53)).2 :=
      le_scale_div hn (Int.sub_add_cancel _ _)
    have hnext : (n.log2 : Int) - 53 + 1 + 52 = n.log2 := by omega
    dsimp only
    rw [he, if_pos hunit, roundDiv_scale hnext, packMagnitude_significand hn hnext]

/-! ### Order -/

private theorem toNat_bits_ofMagnitude {m : Nat} (hm : m < 2 ^ 63) (negative : Bool) :
    (ofMagnitude negative m).bits.toNat = if negative then 2 ^ 63 + m else m := by
  cases negative with
  | false =>
    show (UInt64.ofNat m).toNat = m
    rw [UInt64.toNat_ofNat']
    omega
  | true =>
    show (UInt64.ofNat (2 ^ 63 + m)).toNat = 2 ^ 63 + m
    rw [UInt64.toNat_ofNat']
    omega

/-- A number that is made of a magnitude has it. -/
theorem magnitude_ofMagnitude {m : Nat} (hm : m < 2 ^ 63) (negative : Bool) :
    (ofMagnitude negative m).magnitude = m := by
  rw [magnitude, toNat_bits_ofMagnitude hm]
  show (if negative then 2 ^ 63 + m else m) % 2 ^ 63 = m
  cases negative with
  | false => exact Nat.mod_eq_of_lt hm
  | true => exact (Nat.add_mod_left _ _).trans (Nat.mod_eq_of_lt hm)

/-- A number that is made of a magnitude has the sign that it is made with. -/
theorem isNegative_ofMagnitude {m : Nat} (hm : m < 2 ^ 63) (negative : Bool) :
    (ofMagnitude negative m).isNegative = negative := by
  rw [isNegative, toNat_bits_ofMagnitude hm]
  cases negative with
  | false => exact decide_eq_false (Nat.not_le.mpr hm)
  | true => exact decide_eq_true (Nat.le_add_right _ _)

/-- The rank of a number is its magnitude, turned round below zero. -/
theorem rank_ofMagnitude {m : Nat} (hm : m < 2 ^ 63) (negative : Bool) :
    (ofMagnitude negative m).rank = if negative then -(m : Int) - 1 else m := by
  rw [rank, isNegative_ofMagnitude hm, magnitude_ofMagnitude hm]

/-- The magnitude of an integer is that of its absolute value. -/
theorem magnitude_ofInt (n : Int) : (ofInt n).magnitude = nearestMagnitude n.natAbs := by
  rw [ofInt, ofRatio_one, magnitude_ofMagnitude (nearestMagnitude_lt _)]

/-- An integer keeps its sign. -/
theorem isNegative_ofInt (n : Int) : (ofInt n).isNegative = decide (n < 0) := by
  rw [ofInt, ofRatio_one, isNegative_ofMagnitude (nearestMagnitude_lt _)]

private theorem rank_ofInt (n : Int) :
    (ofInt n).rank =
      if n < 0 then -(nearestMagnitude n.natAbs : Int) - 1 else nearestMagnitude n.natAbs := by
  rw [ofInt, ofRatio_one, rank_ofMagnitude (nearestMagnitude_lt _)]
  simp only [decide_eq_true_eq]

/-- Rounding keeps the order of integers, except that different ones may become the same number. -/
theorem rank_ofInt_mono {a b : Int} (h : a ≤ b) : (ofInt a).rank ≤ (ofInt b).rank := by
  rw [rank_ofInt, rank_ofInt]
  split
  · split
    · have := nearestMagnitude_mono (a := b.natAbs) (b := a.natAbs) (by omega)
      omega
    · omega
  · rw [if_neg (by omega)]
    have := nearestMagnitude_mono (a := a.natAbs) (b := b.natAbs) (by omega)
    omega

/-- Different bit patterns have different places. -/
theorem rank_injective {x y : Binary64} (h : x.rank = y.rank) : x = y := by
  have hbits : x.bits.toNat = y.bits.toNat := by
    have hx := x.bits.toNat_lt
    have hy := y.bits.toNat_lt
    have h63 : Nat.pow 2 63 = 2 ^ 63 := rfl
    simp only [rank, isNegative, magnitude, h63, decide_eq_true_eq] at h
    split at h
    · split at h
      · omega
      · omega
    · split at h
      · omega
      · omega
  obtain ⟨x⟩ := x
  obtain ⟨y⟩ := y
  exact congrArg mk (UInt64.toNat_inj.mp hbits)

/-! ### Whole parts -/

/-- The part before the point, from the significand and the field of the exponent. -/
theorem wholePart_eq (x : Binary64) :
    x.wholePart =
      if x.exponentField = 0 then 0
      else (2 ^ 52 + x.magnitude % 2 ^ 52) * 2 ^ x.exponentField / 2 ^ 1075 := by
  have h52 : Nat.pow 2 52 = 2 ^ 52 := rfl
  have hup (m k bias : Nat) : m * 2 ^ (k + bias) / 2 ^ bias = m * 2 ^ k := by
    rw [Nat.pow_add, ← Nat.mul_assoc, Nat.mul_div_cancel _ (Nat.two_pow_pos bias)]
  have hdown (m k e : Nat) : m * 2 ^ e / 2 ^ (k + e) = m / 2 ^ k := by
    rw [Nat.pow_add, Nat.mul_div_mul_right _ _ (Nat.two_pow_pos e)]
  by_cases h0 : x.exponentField = 0
  · have hlt : x.magnitude < 2 ^ 52 := (Nat.div_eq_zero_iff_lt (Nat.two_pow_pos 52)).mp h0
    have hmantissa : x.mantissa = x.magnitude := if_pos h0
    obtain ⟨k, hexp, hk⟩ : ∃ k, x.exponent = .negSucc k ∧ 52 ≤ k + 1 :=
      ⟨1073, if_pos h0, by decide⟩
    rw [if_pos h0, wholePart, hexp, hmantissa]
    exact Nat.div_eq_of_lt (Nat.lt_of_lt_of_le hlt (Nat.pow_le_pow_right Nat.two_pos hk))
  · simp only [wholePart, exponent, mantissa, if_neg h0, h52]
    generalize 2 ^ 52 + x.magnitude % 2 ^ 52 = m
    generalize x.exponentField = e
    by_cases he : 1075 ≤ e
    · obtain ⟨k, rfl⟩ : ∃ k, e = k + 1075 := ⟨e - 1075, by omega⟩
      have hexp : ((k + 1075 : Nat) : Int) - 1075 = .ofNat k := by
        rw [Int.ofNat_eq_natCast]
        omega
      rw [hexp]
      exact (hup m k 1075).symm
    · obtain ⟨k, hk⟩ : ∃ k, 1075 = k + 1 + e := ⟨1074 - e, by omega⟩
      have hexp : (e : Int) - 1075 = .negSucc k := by omega
      rw [hexp, hk]
      exact (hdown m (k + 1) e).symm

private theorem wholePart_mono {x y : Binary64} (h : x.magnitude ≤ y.magnitude) :
    x.wholePart ≤ y.wholePart := by
  have h52 : Nat.pow 2 52 = 2 ^ 52 := rfl
  have hdiv : x.exponentField ≤ y.exponentField := Nat.div_le_div_right h
  rw [wholePart_eq, wholePart_eq]
  split
  · exact Nat.zero_le _
  · rw [if_neg (by omega)]
    apply Nat.div_le_div_right
    obtain hlt | heq := Nat.lt_or_eq_of_le hdiv
    · -- the greatest significand of an exponent is below the least one of the next
      calc (2 ^ 52 + x.magnitude % 2 ^ 52) * 2 ^ x.exponentField
          ≤ 2 ^ 53 * 2 ^ x.exponentField := Nat.mul_le_mul_right _ (by omega)
        _ = 2 ^ 52 * 2 ^ (x.exponentField + 1) := by
          rw [Nat.pow_succ 2 x.exponentField, Nat.mul_comm _ 2, ← Nat.mul_assoc, ← Nat.pow_succ]
        _ ≤ 2 ^ 52 * 2 ^ y.exponentField :=
          Nat.mul_le_mul_left _ (Nat.pow_le_pow_right Nat.two_pos hlt)
        _ ≤ _ := Nat.mul_le_mul_right _ (Nat.le_add_right _ _)
    · rw [← heq]
      have hx := Nat.div_add_mod x.magnitude (2 ^ 52)
      have hy := Nat.div_add_mod y.magnitude (2 ^ 52)
      have heq' : x.magnitude / 2 ^ 52 = y.magnitude / 2 ^ 52 := heq
      exact Nat.mul_le_mul_right _ (by omega)

/-- Rounded integers are in order of size as the integers are. -/
theorem wholePart_ofInt_mono {a b : Int} (h : a.natAbs ≤ b.natAbs) :
    (ofInt a).wholePart ≤ (ofInt b).wholePart := by
  apply wholePart_mono
  rw [magnitude_ofInt, magnitude_ofInt]
  exact nearestMagnitude_mono h

/-- A finite number from `2 ^ 63` on has no fraction. -/
theorem isWhole_ofInt {n : Int} (h : 2 ^ 63 ≤ n.natAbs) (hf : (ofInt n).isFinite = true) :
    (ofInt n).isWhole = true := by
  have hleast : 1086 * 2 ^ 52 ≤ (ofInt n).magnitude := by
    rw [magnitude_ofInt]
    exact nearestMagnitude_mono (a := 2 ^ 63) h
  have hfield : 1086 ≤ (ofInt n).exponentField :=
    (Nat.le_div_iff_mul_le (Nat.two_pow_pos 52)).mpr hleast
  obtain ⟨k, hk⟩ : ∃ k : Nat, (ofInt n).exponent = .ofNat k := by
    rw [exponent, if_neg (by omega)]
    exact ⟨(ofInt n).exponentField - 1075, by rw [Int.ofNat_eq_natCast]; omega⟩
  rw [isWhole, hf, hk]
  rfl

end TextTemplate.Binary64
