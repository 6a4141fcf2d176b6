import TextTemplate.Builtin.Table
import TextTemplate.Proofs.Rounding

/-!
# The verb for any value

The verb `v` writes a value as printing it does, whatever it is made of, with two exceptions
(`Format.printf_prints_iff`). The verb writes the sign of a floating-point number by itself, in
front of the text of its absolute value: it takes a negative zero for one without a sign, and the
text of infinity has a sign already.
-/

set_option autoImplicit false

namespace TextTemplate

namespace Binary64

variable {x : Binary64}

private theorem magnitude_lt (x : Binary64) : x.magnitude < 2 ^ 63 := Nat.mod_lt _ (by decide)

/-- The magnitude of an absolute value is that of the number. -/
@[simp] theorem magnitude_abs (x : Binary64) : x.abs.magnitude = x.magnitude :=
  magnitude_ofMagnitude x.magnitude_lt false

/-- An absolute value is not negative. -/
@[simp] theorem isNegative_abs (x : Binary64) : x.abs.isNegative = false :=
  isNegative_ofMagnitude x.magnitude_lt false

/-- The mantissa of an absolute value is that of the number. -/
@[simp] theorem mantissa_abs (x : Binary64) : x.abs.mantissa = x.mantissa := by
  unfold mantissa exponentField
  rw [magnitude_abs]

/-- The exponent of an absolute value is that of the number. -/
@[simp] theorem exponent_abs (x : Binary64) : x.abs.exponent = x.exponent := by
  unfold exponent exponentField
  rw [magnitude_abs]

/-- An absolute value is NaN if the number is. -/
@[simp] theorem isNaN_abs (x : Binary64) : x.abs.isNaN = x.isNaN := by
  unfold isNaN
  rw [magnitude_abs]

/-- An absolute value is infinite if the number is. -/
@[simp] theorem isInfinite_abs (x : Binary64) : x.abs.isInfinite = x.isInfinite := by
  unfold isInfinite
  rw [magnitude_abs]

/-- An absolute value is zero if the number is. -/
@[simp] theorem isZero_abs (x : Binary64) : x.abs.isZero = x.isZero := by
  unfold isZero
  rw [magnitude_abs]

private theorem isFinite_iff : x.isFinite = true ↔ x.isNaN = false ∧ x.isInfinite = false := by
  simp only [isFinite, isNaN, isInfinite, decide_eq_true_eq, decide_eq_false_iff_not,
    beq_eq_false_iff_ne]
  omega

/-- The digits of a number do not depend on its sign. -/
theorem shortest_abs (x : Binary64) : x.abs.shortest = x.shortest := by
  simp only [shortest, toRatio, neighbourhood, mantissa_abs, exponent_abs]

/-- A number is told by its sign and its magnitude. -/
theorem eq_ofMagnitude (x : Binary64) : x = ofMagnitude x.isNegative x.magnitude := by
  apply rank_injective
  rw [rank_ofMagnitude x.magnitude_lt, rank]

/-- The numbers below zero are those with a sign other than the negative zero. -/
theorem isBelowZero_eq (h : x.isNaN = false) :
    Format.isBelowZero x = (x.isNegative && !x.isZero) := by
  have hzero : zero.isNaN = false := by decide
  have hrank : zero.numericRank = 0 := by decide
  rw [Format.isBelowZero, numLt, h, hzero, hrank]
  unfold numericRank isZero
  apply Bool.eq_iff_iff.mpr
  cases x.isNegative with
  | false => simp
  | true =>
    simp only [if_true, Bool.true_and, Bool.not_false, decide_eq_true_eq, Bool.not_eq_true',
      beq_eq_false_iff_ne, ne_eq]
    omega

end Binary64

namespace FloatText

variable {x : Binary64}

/-- The text of a finite number is its sign and the text of its absolute value. -/
theorem chars_eq (f : FloatText) (h : x.isFinite = true) :
    f.chars x = (if x.isNegative then ['-'] else []) ++ f.chars x.abs := by
  obtain ⟨hnan, hinf⟩ := Binary64.isFinite_iff.mp h
  unfold chars
  rw [Binary64.isNaN_abs, Binary64.isInfinite_abs, Binary64.isZero_abs, Binary64.shortest_abs,
    Binary64.isNegative_abs, hnan, hinf]
  rfl

end FloatText

namespace Format

/-- A directive of a verb alone. -/
def Spec.bare : Spec := ⟨false, false, false, false, false, none, none, false, false⟩

/-- What has a sign that the verb for any value writes in another way: the negative infinity and the
negative zero. -/
def LosesSign (x : Binary64) : Prop := x = .infinity true ∨ x = .ofMagnitude true 0

variable {x : Binary64} {v : Value}

private theorem shortestChars_bare (x : Binary64) :
    shortestChars .bare 'v' x =
      (if isBelowZero x then ['-'] else []) ++ FloatText.printed.chars x.abs := rfl

/-- The verb writes a number as it is printed, apart from two. -/
theorem shortestChars_eq (h : ¬ LosesSign x) :
    shortestChars .bare 'v' x = FloatText.printed.chars x := by
  rw [shortestChars_bare]
  obtain ⟨hinf, hzero⟩ := not_or.mp h
  by_cases hnan : x.isNaN = true
  · have hbelow : isBelowZero x = false := by simp [isBelowZero, Binary64.numLt, hnan]
    have habs : x.abs.isNaN = true := by rw [Binary64.isNaN_abs, hnan]
    rw [hbelow, FloatText.chars, FloatText.chars, if_pos habs, if_pos hnan]
    rfl
  rw [Bool.not_eq_true] at hnan
  rw [Binary64.isBelowZero_eq hnan]
  by_cases hfinite : x.isFinite = true
  · rw [FloatText.chars_eq _ hfinite]
    by_cases hz : x.isZero = true
    · have hsign : x.isNegative = false := by
        rw [← Bool.not_eq_true]
        intro hneg
        apply hzero
        rw [x.eq_ofMagnitude, hneg, beq_iff_eq.mp hz]
      rw [hsign, Bool.false_and]
    · rw [Bool.not_eq_true] at hz
      rw [hz, Bool.not_false, Bool.and_true]
  · have hinfinite : x.isInfinite = true := by
      rw [Binary64.isFinite_iff, hnan] at hfinite
      simpa using hfinite
    have hsign : x.isNegative = false := by
      rw [← Bool.not_eq_true]
      intro hneg
      apply hinf
      rw [x.eq_ofMagnitude, hneg, beq_iff_eq.mp hinfinite]
      rfl
    have habs : x.abs = x := by
      rw [Binary64.abs, ← hsign, ← x.eq_ofMagnitude]
    rw [hsign, habs]
    rfl

private theorem shortestChars_ne (h : LosesSign x) :
    shortestChars .bare 'v' x ≠ FloatText.printed.chars x := by
  obtain rfl | rfl := h
  · decide
  · decide

/-- Nothing is put around what a directive of a verb alone writes. -/
theorem pad_bare (body : List Char) (numeric : Bool) : pad .bare body numeric = body := by
  unfold pad
  change List.replicate (0 - body.length) ' ' ++ body = body
  rw [Nat.zero_sub, List.replicate_zero, List.nil_append]

/-- The text of an integer is its sign and its digits. -/
theorem toList_toString (n : Int) :
    (toString n).toList = signed .bare (n < 0) (Nat.toDigits 10 n.natAbs) := by
  have hnat (m : Nat) : (toString m).toList = Nat.toDigits 10 m := by
    rw [Nat.toString_eq_repr, Nat.repr, String.toList_ofList]
  cases n with
  | ofNat m => exact hnat m
  | negSucc m =>
    have htext : toString (Int.negSucc m) = "-" ++ toString (m + 1) := rfl
    have hsign : decide (Int.negSucc m < 0) = true := by simp [Int.negSucc_lt_zero]
    rw [htext, String.toList_append, hnat, hsign]
    simp [signed, signChars]

/-- An argument is printed as what its optionals hold. -/
theorem argText_indirect (v : Value) : v.argText = v.indirect.argText := by
  cases v with
  | some v cell => exact argText_indirect v
  | _ => rfl

/-- What the verb writes for a value: its text as an argument, except that a floating-point number
has its sign written in front of its absolute value. -/
def verbChars (v : Value) : List Char :=
  match v.indirect with
  | .float x => shortestChars .bare 'v' x
  | w => w.argText.toList

private theorem formatArg_bare (v : Value) : formatArg .bare 'v' v = verbChars v := by
  have hinteger (n : Int) : integerForm? .bare 'v' n = some ((toString n).toList, true) := by
    rw [toList_toString]
    rfl
  have htext (s : String) : textForm? .bare 'v' s = some (s.toList, false) := rfl
  have hfloat (x : Binary64) :
      floatForm? .bare 'v' x = some (shortestChars .bare 'v' x, true) := rfl
  unfold formatArg form? verbChars
  rw [if_neg (by decide)]
  cases v.indirect with
  | int n =>
    simp only [hinteger, pad_bare]
    rfl
  | uint n =>
    simp only [hinteger, pad_bare]
    rfl
  | float x => simp only [hfloat, pad_bare]
  | text s =>
    simp only [htext, pad_bare]
    rfl
  | bool b =>
    simp only [pad_bare]
    rfl
  | _ =>
    simp only [pad_bare]
    rfl

/-- The verb writes a value as it is printed, unless it loses a sign. -/
theorem verbChars_eq_iff (v : Value) :
    verbChars v = v.argText.toList ↔ ¬ ∃ x, v.indirect = .float x ∧ LosesSign x := by
  rw [argText_indirect]
  unfold verbChars
  cases v.indirect with
  | float x =>
    have htext : (Value.float x).argText.toList = FloatText.printed.chars x :=
      String.toList_ofList
    rw [htext]
    by_cases h : LosesSign x
    · simp [shortestChars_ne h, h]
    · simp [shortestChars_eq h, h]
  | _ => simp

private theorem printAll_singleton (v : Value) : Value.printAll [v] = v.argText := by
  simp [Value.printAll, Value.spacedTexts, String.join]

/-- What the formatting function writes for the verb alone. -/
theorem printf_bare (v : Value) :
    Builtin.printf.plain [.text "%v", v] =
      .done (.single (.text (String.ofList (verbChars v)))) := by
  have hpieces : pieces "%v".toList = [.directive .bare 'v'] := rfl
  have hrange : isOutOfRange "%v" [v] = false := by
    rw [isOutOfRange, hpieces, anyTooFar, if_neg (by decide), roundsTooFar]
    split
    · contradiction
    · rfl
  have hwrite : write [.directive .bare 'v'] [v] = verbChars v := by
    rw [← formatArg_bare, write, if_neg (by decide)]
    exact List.append_nil _
  rw [Builtin.plain_printf, hrange, format, hpieces, hwrite]
  rfl

/-- The verb for any value writes what printing the value writes, apart from the negative infinity
and the negative zero. -/
theorem printf_prints_iff (v : Value) :
    ∃ out, Builtin.printf.plain [.text "%v", v] = .done (.single (.text out)) ∧
      Builtin.print.plain [v] = .done (.single (.text (Value.printAll [v]))) ∧
      (out = Value.printAll [v] ↔ ¬ ∃ x, v.indirect = .float x ∧ LosesSign x) := by
  refine ⟨_, printf_bare v, rfl, ?_⟩
  rw [printAll_singleton, ← verbChars_eq_iff, ← String.toList_inj, String.toList_ofList]

/-- The negative infinity has two signs, and the negative zero none. -/
theorem not_prints_negative :
    Builtin.printf.plain [.text "%v", .float (.infinity true)] =
        .done (.single (.text "-+Inf")) ∧
      Builtin.print.plain [.float (.infinity true)] = .done (.single (.text "-Inf")) ∧
      Builtin.printf.plain [.text "%v", .float (.ofMagnitude true 0)] =
        .done (.single (.text "0")) ∧
      Builtin.print.plain [.float (.ofMagnitude true 0)] = .done (.single (.text "-0")) := by
  have hinfinity : verbChars (.float (.infinity true)) = "-+Inf".toList := by decide
  have hzero : verbChars (.float (.ofMagnitude true 0)) = "0".toList := by decide
  have hprint (v : Value) :
      Builtin.print.plain [v] = .done (.single (.text (String.ofList v.argText.toList))) := by
    rw [String.ofList_toList, ← printAll_singleton]
    rfl
  have hprintInfinity : (Value.float (.infinity true)).argText.toList = "-Inf".toList := by decide
  have hprintZero : (Value.float (.ofMagnitude true 0)).argText.toList = "-0".toList := by decide
  rw [printf_bare, printf_bare, hprint, hprint, hinfinity, hzero, hprintInfinity, hprintZero]
  simp only [String.ofList_toList, and_self]

end Format

end TextTemplate
