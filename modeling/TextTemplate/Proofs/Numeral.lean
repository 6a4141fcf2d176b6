import Mathlib.Algebra.Group.Nat.Defs
import Mathlib.Data.List.Induction
import TextTemplate.Number.Reader

/-!
# Numerals

A numeral of a base is a text of digits, at least one, and denotes a number (`Number.Numeral`). The
digits of a number in a base are a numeral for it, also with zeros in front (`Numeral.toDigits`,
`Numeral.zeros`), and a numeral denotes one number only (`Numeral.unique`). Reading a numeral gives
its number, unless that exceeds the limit (`Numeral.readDigits_eq`).
-/

set_option autoImplicit false

namespace TextTemplate.Number

/-- The character is a digit of a base and stands for a value; letters count in either case. -/
def IsDigit (base d : Nat) (c : Char) : Prop :=
  d < base ∧ (c = d.digitChar ∨ c = d.digitChar.toUpper)

/-- Digits of a base, at least one, with the number that they denote. -/
inductive Numeral (base : Nat) : List Char → Nat → Prop where
  | digit {d : Nat} {c : Char} : IsDigit base d c → Numeral base [c] d
  | snoc {cs : List Char} {n d : Nat} {c : Char} :
      Numeral base cs n → IsDigit base d c → Numeral base (cs ++ [c]) (n * base + d)

/-- What stands for a sign, and whether it is a minus. -/
inductive Sign : List Char → Bool → Prop where
  | none : Sign [] false
  | plus : Sign ['+'] false
  | minus : Sign ['-'] true

variable {base n m d limit : Nat} {c : Char} {cs ds : List Char} {overflow : IntegerFault}

/-! ### Digits -/

namespace IsDigit

private theorem digitValue?_eq (h : IsDigit base d c) (hb : base ≤ 16) :
    digitValue? base c = some d := by
  have hall : ∀ base < 17, ∀ d < base, digitValue? base d.digitChar = some d ∧
      digitValue? base d.digitChar.toUpper = some d := by decide
  obtain ⟨hlower, hupper⟩ := hall base (Nat.lt_succ_of_le hb) d h.1
  obtain ⟨-, rfl | rfl⟩ := h
  · exact hlower
  · exact hupper

private theorem isAlphanum (h : IsDigit base d c) (hb : base ≤ 16) : c.isAlphanum = true := by
  have hall : ∀ d < 16, d.digitChar.isAlphanum = true ∧ d.digitChar.toUpper.isAlphanum = true := by
    decide
  obtain ⟨hlower, hupper⟩ := hall d (Nat.lt_of_lt_of_le h.1 hb)
  obtain ⟨-, rfl | rfl⟩ := h
  · exact hlower
  · exact hupper

/-- The digits below ten are the decimal ones. -/
theorem isDigit_eq (h : IsDigit base d c) (hb : base ≤ 16) : c.isDigit = decide (d < 10) := by
  have hall : ∀ d < 16, d.digitChar.isDigit = decide (d < 10) ∧
      d.digitChar.toUpper.isDigit = decide (d < 10) := by decide
  obtain ⟨hlower, hupper⟩ := hall d (Nat.lt_of_lt_of_le h.1 hb)
  obtain ⟨-, rfl | rfl⟩ := h
  · exact hlower
  · exact hupper

/-- The code of a decimal digit tells its value. -/
theorem toNat_sub (h : IsDigit 10 d c) : c.toNat - '0'.toNat = d := by
  have hall : ∀ d < 10, d.digitChar.toNat - '0'.toNat = d ∧
      d.digitChar.toUpper.toNat - '0'.toNat = d := by decide
  obtain ⟨hlower, hupper⟩ := hall d h.1
  obtain ⟨-, rfl | rfl⟩ := h
  · exact hlower
  · exact hupper

/-- Decimal digits are no letters. -/
theorem isDigit_toLower (h : IsDigit 10 d c) : c.toLower.isDigit = true := by
  have hall : ∀ d < 10, d.digitChar.toLower.isDigit = true ∧
      d.digitChar.toUpper.toLower.isDigit = true := by decide
  obtain ⟨hlower, hupper⟩ := hall d h.1
  obtain ⟨-, rfl | rfl⟩ := h
  · exact hlower
  · exact hupper

private theorem toUpper (h : IsDigit base d c) (hb : base ≤ 16) : IsDigit base d c.toUpper := by
  have hall : ∀ d < 16, d.digitChar.toUpper.toUpper = d.digitChar.toUpper := by decide
  obtain ⟨hd, rfl | rfl⟩ := h
  · exact ⟨hd, .inr rfl⟩
  · exact ⟨hd, .inr (hall d (Nat.lt_of_lt_of_le hd hb))⟩

end IsDigit

/-! ### Numerals -/

namespace Numeral

/-- A numeral has a digit. -/
theorem ne_nil (h : Numeral base cs n) : cs ≠ [] := by
  cases h with
  | digit _ => exact List.cons_ne_nil _ _
  | snoc _ _ => simp

private theorem pos (h : Numeral base cs n) : 0 < base := by
  cases h with
  | digit hd | snoc _ hd => exact Nat.zero_lt_of_lt hd.1

/-- Every character of a numeral is a digit. -/
theorem exists_isDigit (h : Numeral base cs n) (hc : c ∈ cs) : ∃ d, IsDigit base d c := by
  induction h with
  | digit hd =>
    cases List.mem_singleton.mp hc
    exact ⟨_, hd⟩
  | snoc _ hd ih =>
    obtain hc | hc := List.mem_append.mp hc
    · exact ih hc
    · cases List.mem_singleton.mp hc
      exact ⟨_, hd⟩

/-- The digits of a numeral are letters and figures. -/
theorem isAlphanum (h : Numeral base cs n) (hb : base ≤ 16) (hc : c ∈ cs) :
    c.isAlphanum = true := by
  obtain ⟨d, hd⟩ := h.exists_isDigit hc
  exact hd.isAlphanum hb

/-- A numeral of a base up to ten has decimal digits only. -/
theorem isDigit (h : Numeral base cs n) (hb : base ≤ 10) (hc : c ∈ cs) : c.isDigit = true := by
  obtain ⟨d, hd⟩ := h.exists_isDigit hc
  rw [hd.isDigit_eq (by omega)]
  exact decide_eq_true (Nat.lt_of_lt_of_le hd.1 hb)

/-- The first of two numerals counts as often as the second has room for. -/
theorem append (h : Numeral base cs n) (k : Numeral base ds m) :
    Numeral base (cs ++ ds) (n * base ^ ds.length + m) := by
  induction k with
  | digit hd =>
    rw [List.length_singleton, Nat.pow_one]
    exact .snoc h hd
  | @snoc ds m d c _ hd ih =>
    have hvalue : n * base ^ (ds ++ [c]).length + (m * base + d) =
        (n * base ^ ds.length + m) * base + d := by
      rw [List.length_append, List.length_singleton, Nat.pow_succ, Nat.add_mul, Nat.mul_assoc,
        Nat.add_assoc]
    rw [← List.append_assoc, hvalue]
    exact .snoc ih hd

/-- Zeros in front do not count. -/
theorem zeros (h : Numeral base cs n) (k : Nat) :
    Numeral base (List.replicate k '0' ++ cs) n := by
  induction k with
  | zero => exact h
  | succ k ih =>
    have hzero : Numeral base ['0'] 0 := .digit ⟨h.pos, .inl rfl⟩
    have happend := hzero.append ih
    rw [Nat.zero_mul, Nat.zero_add] at happend
    exact happend

/-- A numeral in capital letters is one of the same number. -/
theorem map_toUpper (h : Numeral base cs n) (hb : base ≤ 16) :
    Numeral base (cs.map Char.toUpper) n := by
  induction h with
  | digit hd => exact .digit (hd.toUpper hb)
  | snoc _ hd ih =>
    rw [List.map_append]
    exact .snoc ih (hd.toUpper hb)

/-- The digits of a number denote it. -/
theorem toDigits (hb : 1 < base) (n : Nat) : Numeral base (Nat.toDigits base n) n := by
  induction n using Nat.base_induction base hb with
  | single d hd =>
    rw [Nat.toDigits_of_lt_base hd]
    exact .digit ⟨hd, .inl rfl⟩
  | digit m d hd hm ih =>
    rw [← Nat.toDigits_append_toDigits hb hm hd, Nat.toDigits_of_lt_base hd, Nat.mul_comm]
    exact .snoc ih ⟨hd, .inl rfl⟩

/-- The digits of a number other than zero do not begin with a zero. -/
theorem exists_toDigits_eq (hb : 1 < base) (hn : n ≠ 0) :
    ∃ d cs, d ≠ 0 ∧ d < base ∧ Nat.toDigits base n = d.digitChar :: cs := by
  induction n using Nat.base_induction base hb with
  | single d hd => exact ⟨d, [], hn, hd, Nat.toDigits_of_lt_base hd⟩
  | digit m d hd hpos ih =>
    obtain ⟨d', cs, hd', hlt, hcs⟩ := ih (Nat.ne_of_gt hpos)
    refine ⟨d', cs ++ Nat.toDigits base d, hd', hlt, ?_⟩
    rw [← Nat.toDigits_append_toDigits hb hpos hd, hcs, List.cons_append]

/-- Digits denote a number. -/
theorem exists_of_isDigit (hne : cs ≠ []) (h : ∀ c ∈ cs, ∃ d, IsDigit base d c) :
    ∃ n, Numeral base cs n := by
  induction cs using List.reverseRecOn with
  | nil => exact (hne rfl).elim
  | append_singleton cs c ih =>
    obtain ⟨d, hd⟩ := h c (by simp)
    by_cases hcs : cs = []
    · rw [hcs]
      exact ⟨d, .digit hd⟩
    · obtain ⟨n, hn⟩ := ih hcs fun c' hc' ↦ h c' (List.mem_append_left _ hc')
      exact ⟨n * base + d, .snoc hn hd⟩

/-- What ends in a letter is more than zero. -/
theorem ne_zero (h : Numeral base cs n) (hb : base ≤ 16) (hletter : ∀ c ∈ cs, c.isDigit = false) :
    n ≠ 0 := by
  have hpos {d : Nat} {c : Char} (hd : IsDigit base d c) (hc : c ∈ cs) : 10 ≤ d := by
    have := hd.isDigit_eq hb
    rw [hletter c hc, eq_comm, decide_eq_false_iff_not] at this
    omega
  cases h with
  | digit hd =>
    have := hpos hd (by simp)
    omega
  | snoc _ hd =>
    have := hpos hd (by simp)
    omega

/-! ### Reading -/

/-- Reading goes on after digits with the number that they have given. -/
theorem readDigits_append {acc : Nat} (cs ds : List Char) :
    readDigits base limit overflow acc (cs ++ ds) =
      (readDigits base limit overflow acc cs).bind
        fun n ↦ readDigits base limit overflow n ds := by
  induction cs generalizing acc with
  | nil => rfl
  | cons c cs ih =>
    rw [List.cons_append, readDigits, readDigits]
    split
    · rfl
    · split
      · rfl
      · exact ih

private theorem readDigits_singleton {acc : Nat} (hd : IsDigit base d c) (hb : base ≤ 16) :
    readDigits base limit overflow acc [c] =
      if acc * base + d ≤ limit then .ok (acc * base + d) else .error overflow := by
  rw [readDigits, hd.digitValue?_eq hb]
  by_cases hle : acc * base + d ≤ limit
  · exact (if_neg (Nat.not_lt.mpr hle)).trans (if_pos hle).symm
  · exact (if_pos (Nat.lt_of_not_le hle)).trans (if_neg hle).symm

/-- A numeral is read as the number that it denotes, unless that exceeds the limit. -/
theorem readDigits_eq (h : Numeral base cs n) (hb : base ≤ 16) :
    readDigits base limit overflow 0 cs = if n ≤ limit then .ok n else .error overflow := by
  induction h with
  | digit hd => rw [readDigits_singleton hd hb, Nat.zero_mul, Nat.zero_add]
  | @snoc cs n d c h hd ih =>
    have hle : n ≤ n * base + d := Nat.le_add_right_of_le (Nat.le_mul_of_pos_right n h.pos)
    rw [readDigits_append, ih]
    by_cases hn : n ≤ limit
    · rw [if_pos hn]
      exact readDigits_singleton hd hb
    · -- more digits do not make the number less
      rw [if_neg hn, if_neg (fun hsum ↦ hn (Nat.le_trans hle hsum))]
      rfl

/-- A numeral denotes one number. -/
theorem unique (h : Numeral base cs n) (k : Numeral base cs m) (hb : base ≤ 16) : n = m := by
  have hn : readDigits base (n + m) .tooLarge 0 cs = .ok n :=
    (h.readDigits_eq hb).trans (if_pos (Nat.le_add_right n m))
  have hm : readDigits base (n + m) .tooLarge 0 cs = .ok m :=
    (k.readDigits_eq hb).trans (if_pos (Nat.le_add_left m n))
  exact Except.ok.inj (hn.symm.trans hm)

/-- Zeros behind letters make a number greater. -/
theorem insert_zeros {ahead rest : List Char} (h : Numeral base (ahead ++ rest) n) (hb : base ≤ 16)
    (hahead : ahead ≠ []) (hletter : ∀ c ∈ ahead, c.isDigit = false) (hrest : rest ≠ []) {k : Nat}
    (hk : k ≠ 0) : ∃ m, Numeral base (ahead ++ (List.replicate k '0' ++ rest)) m ∧ n < m := by
  obtain ⟨p, hp⟩ := exists_of_isDigit hahead fun c hc ↦
    h.exists_isDigit (List.mem_append_left _ hc)
  obtain ⟨r, hr⟩ := exists_of_isDigit hrest fun c hc ↦
    h.exists_isDigit (List.mem_append_right _ hc)
  have hn : n = p * base ^ rest.length + r := h.unique (hp.append hr) hb
  refine ⟨_, hp.append (hr.zeros k), ?_⟩
  have hbase : 1 < base := by
    obtain ⟨d, hd⟩ := hp.exists_isDigit (List.getLast_mem hahead)
    have hten := hd.isDigit_eq hb
    rw [hletter _ (List.getLast_mem hahead), eq_comm, decide_eq_false_iff_not] at hten
    have := hd.1
    omega
  have hlength : rest.length < (List.replicate k '0' ++ rest).length := by
    rw [List.length_append, List.length_replicate]
    omega
  have hpow := Nat.pow_lt_pow_right hbase hlength
  have hmul := Nat.mul_lt_mul_of_pos_left hpow (Nat.pos_of_ne_zero (hp.ne_zero hb hletter))
  omega

/-- A numeral is read as its number, if that fits. -/
theorem readUnsigned_eq (h : Numeral base cs n) (hb : base ≤ 16) :
    readUnsigned base cs = if n < 2 ^ 64 then .ok n else .error .tooLarge := by
  cases cs with
  | nil => exact (h.ne_nil rfl).elim
  | cons c cs =>
    have hplus : c ≠ '+' := by
      rintro rfl
      exact absurd (h.isAlphanum hb List.mem_cons_self) (by decide)
    rw [readUnsigned, if_neg hplus, readMagnitude, List.isEmpty_cons, if_neg Bool.false_ne_true,
      h.readDigits_eq hb]
    have hlimit : n ≤ Nat.pow 2 64 - 1 ↔ n < 2 ^ 64 := Nat.le_sub_one_iff_lt (Nat.two_pow_pos 64)
    simp only [hlimit]

/-- The digits of a decimal numeral have its number as their value. -/
theorem decimalValue_eq (h : Numeral 10 cs n) : decimalValue cs = n := by
  induction h with
  | digit hd =>
    rw [decimalValue, List.foldl_cons, Nat.zero_mul, Nat.zero_add]
    exact hd.toNat_sub
  | snoc _ hd ih =>
    rw [decimalValue] at ih ⊢
    rw [List.foldl_append, ih, List.foldl_cons, List.foldl_nil, hd.toNat_sub]

end Numeral

/-- A sign is split off from what begins with no sign. -/
theorem Sign.splitSign_append {sign : List Char} {negative : Bool} (h : Sign sign negative)
    (hc : ∀ c ∈ cs, c.isAlphanum = true) : splitSign (sign ++ cs) = (negative, cs) := by
  cases h with
  | plus | minus => rfl
  | none =>
    rw [List.nil_append, splitSign.eq_def]
    split
    · exact absurd (hc _ List.mem_cons_self) (by decide)
    · exact absurd (hc _ List.mem_cons_self) (by decide)
    · rfl

end TextTemplate.Number
