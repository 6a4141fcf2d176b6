import TextTemplate.Proofs.Answering
import TextTemplate.Proofs.DefaultVerb
import TextTemplate.Proofs.Evaluation
import TextTemplate.Proofs.IntegerLiteral

/-!
# Conversion of integers

The conversions look at a value that is a whole number, one of the two integer types or a truth,
as that number (`Convert.whole?`): they give it as it is or refuse it, and refuse it only where
their type does not have it. An integer is read back from its text, by its conversion and as a
literal (`Convert.integers_survive`).
-/

set_option autoImplicit false

namespace TextTemplate

open Number (Sign Numeral)
open Literal (fitSigned fitUnsigned IsInteger)

/-! ### Reading signed numbers -/

namespace Number

variable {sign digits : List Char} {negative : Bool} {n : Nat}

/-- A numeral with a sign is read as its number, which is to be within the signed range. -/
theorem readSigned_eq (h : Sign sign negative) (hd : Numeral 10 digits n) :
    readSigned (sign ++ digits) =
      if negative then (if n ≤ 2 ^ 63 then .ok (-(n : Int)) else .error .tooSmall)
      else (if n < 2 ^ 63 then .ok (n : Int) else .error .tooLarge) := by
  obtain ⟨c, cs, rfl⟩ := List.exists_cons_of_ne_nil hd.ne_nil
  have hlimit : n ≤ Nat.pow 2 63 - 1 ↔ n < 2 ^ 63 := Nat.le_sub_one_iff_lt (Nat.two_pow_pos 63)
  have hdigits (limit : Nat) (overflow : IntegerFault) :
      readMagnitude 10 limit overflow (c :: cs) = if n ≤ limit then .ok n else .error overflow := by
    rw [readMagnitude, List.isEmpty_cons, if_neg Bool.false_ne_true, hd.readDigits_eq (by decide)]
  have hpositive : (readMagnitude 10 (Nat.pow 2 63 - 1) .tooLarge (c :: cs)).map
      (fun m => (m : Int)) = if n < 2 ^ 63 then .ok (n : Int) else .error .tooLarge := by
    rw [hdigits]
    simp only [hlimit]
    split <;> rfl
  cases h with
  | plus => exact hpositive
  | minus =>
    rw [if_pos rfl]
    show (readMagnitude 10 (2 ^ 63) .tooSmall (c :: cs)).map (fun m => -(m : Int)) = _
    rw [hdigits]
    split <;> rfl
  | none =>
    -- a digit is no sign
    have hsign (s : Char) (hs : s.isAlphanum = false) : c ≠ s := by
      rintro rfl
      rw [hd.isAlphanum (by decide) List.mem_cons_self] at hs
      cases hs
    rw [List.nil_append, readSigned, if_neg (hsign '-' (by decide)), if_neg (hsign '+' (by decide))]
    exact hpositive

end Number

namespace Convert

variable {host : Host} {v w : Value} {n : Int}

/-! ### The text of an integer -/

/-- The text of an integer is a sign, if it is negative, and a numeral for its magnitude. -/
theorem toList_toString (n : Int) :
    ∃ sign, Sign sign (decide (n < 0)) ∧
      (toString n).toList = sign ++ Nat.toDigits 10 n.natAbs := by
  rw [Format.toList_toString]
  by_cases h : n < 0
  · rw [decide_eq_true h]
    exact ⟨['-'], .minus, rfl⟩
  · rw [decide_eq_false h]
    exact ⟨[], .none, rfl⟩

/-- A signed integer is read back from its text. -/
theorem readSigned_toString (i : Int64) :
    Number.readSigned (toString i.toInt).toList = .ok i.toInt := by
  obtain ⟨sign, hsign, htext⟩ := toList_toString i.toInt
  have hlow := i.le_toInt
  have hhigh := i.toInt_lt
  rw [htext, Number.readSigned_eq hsign (.toDigits (by decide) _)]
  by_cases h : i.toInt < 0
  · rw [decide_eq_true h, if_pos rfl, if_pos (by omega)]
    exact congrArg Except.ok (by omega)
  · rw [decide_eq_false h, if_neg Bool.false_ne_true, if_pos (by omega)]
    exact congrArg Except.ok (by omega)

/-- An unsigned integer is read back from its text. -/
theorem readUnsigned_toString (u : UInt64) :
    Number.readUnsigned 10 (toString u.toNat).toList = .ok u.toNat := by
  have htext : (toString u.toNat).toList = Nat.toDigits 10 u.toNat := by
    rw [Nat.toString_eq_repr, Nat.repr, String.toList_ofList]
  rw [htext, (Numeral.toDigits (by decide) _).readUnsigned_eq (by decide), if_pos u.toNat_lt]

/-- The text of an integer is a literal of it. -/
theorem isInteger_toString (n : Int) : IsInteger (toString n) 10 n := by
  obtain ⟨sign, hsign, htext⟩ := toList_toString n
  have hd : Numeral 10 (Nat.toDigits 10 n.natAbs) n.natAbs := .toDigits (by decide) _
  have hclean : (toString n).toList.filter (· ≠ '_') =
      sign ++ ([] ++ Nat.toDigits 10 n.natAbs) := by
    rw [htext, List.nil_append, List.filter_eq_self]
    intro c hc
    obtain hc | hc := List.mem_append.mp hc
    · generalize decide (n < 0) = negative at hsign
      cases hsign <;> simp at hc <;> simp [hc]
    · have halpha := hd.isAlphanum (by decide) hc
      have hne : c ≠ '_' := by
        rintro rfl
        exact absurd halpha (by decide)
      simpa using hne
  have hvalue : (if decide (n < 0) = true then -(n.natAbs : Int) else n.natAbs) = n := by
    simp only [decide_eq_true_iff]
    split <;> omega
  have hinteger := IsInteger.mk hsign .decimal hd hclean
  rwa [hvalue] at hinteger

/-! ### Whole numbers -/

/-- The integer that a value is, or that it stands for as a truth. -/
def whole? (v : Value) : Option Int :=
  match v.indirect with
  | .bool b => some (if b then 1 else 0)
  | .int i => some i.toInt
  | .uint u => some u.toNat
  | _ => none

/-- Values that are an integer, as the type of signed integers has it. -/
def IsInt (w : Value) (n : Int) : Prop := ∃ i : Int64, w = .int i ∧ i.toInt = n

/-- Values that are an integer, as the type of unsigned integers has it. -/
def IsUint (w : Value) (n : Int) : Prop := ∃ u : UInt64, w = .uint u ∧ (u.toNat : Int) = n

/-- Both conversions of a value give an integer as it is, and fail where their type does not have
it. -/
structure Exact (host : Host) (v : Value) (n : Int) : Prop where
  toInt_gives (w : Value) : Builtin.Gives host .toInt [v] w ↔ IsInt w n
  toInt_fails : Builtin.Fails host .toInt [v] ↔ n < -2 ^ 63 ∨ 2 ^ 63 ≤ n
  toUint_gives (w : Value) : Builtin.Gives host .toUint [v] w ↔ IsUint w n
  toUint_fails : Builtin.Fails host .toUint [v] ↔ n < 0 ∨ 2 ^ 64 ≤ n

private theorem toInt_of_whole? (h : whole? v = some n) :
    toInt v = (fitSigned n).elim (.error (cannotConvert v.indirect "int64")) (.ok ∘ .int) := by
  rw [whole?] at h
  rw [toInt]
  split at h
  · next b hv =>
    cases h
    rw [hv]
    cases b <;> rfl
  · next i hv =>
    cases h
    rw [hv, Literal.fitSigned_eq_some.mpr rfl]
    rfl
  · next u hv =>
    cases h
    rw [hv]
    dsimp only
    cases hfit : Number.signed? u with
    | some i =>
      rw [Literal.fitSigned_eq_some.mpr (Number.signed?_eq_some_iff.mp hfit).symm]
      rfl
    | none =>
      have hlarge : 9223372036854775808 ≤ u.toNat := Number.signed?_eq_none_iff.mp hfit
      have hnone : fitSigned u.toNat = none := by
        rw [Literal.fitSigned_eq_none]
        omega
      rw [hnone]
      rfl
  · cases h

private theorem toUint_of_whole? (h : whole? v = some n) :
    toUint v =
      (fitUnsigned n).elim (.error (cannotConvert v.indirect "uint64")) (.ok ∘ .uint) := by
  rw [whole?] at h
  rw [toUint]
  split at h
  · next b hv =>
    cases h
    rw [hv]
    cases b <;> rfl
  · next i hv =>
    cases h
    rw [hv]
    dsimp only
    cases hfit : Number.unsigned? i with
    | some u =>
      rw [Literal.fitUnsigned_eq_some.mpr (Number.unsigned?_eq_some_iff.mp hfit).symm]
      rfl
    | none =>
      have hnone : fitUnsigned i.toInt = none := by
        rw [Literal.fitUnsigned_eq_none]
        have hneg := Number.unsigned?_eq_none_iff.mp hfit
        omega
      rw [hnone]
      rfl
  · next u hv =>
    cases h
    rw [hv, Literal.fitUnsigned_eq_some.mpr rfl]
    rfl
  · cases h

/-- A function of one argument that gives what an option holds. -/
theorem gives_and_fails {α : Type} (host : Host) {b : Builtin} {o : Option α} {f : α → Value}
    {e : EvalError} (hpure : b.isPure = true) (haccepts : b.arity.accepts 1 = true)
    (h : b.pureResult [v] = o.elim (.error e) (.ok ∘ f)) :
    (∀ w, Builtin.Gives host b [v] w ↔ ∃ a, w = f a ∧ o = some a) ∧
      (Builtin.Fails host b [v] ↔ o = none) := by
  simp only [Builtin.gives_iff hpure, Builtin.fails_iff hpure, List.length_singleton, haccepts, h]
  cases o with
  | none => simp
  | some a => simp [eq_comm]

/-- The conversions of a whole number are exact. -/
theorem exact_of_whole? (host : Host) (h : whole? v = some n) : Exact host v n := by
  have hsigned : Builtin.toInt.pureResult [v] = _ := toInt_of_whole? h
  have hunsigned : Builtin.toUint.pureResult [v] = _ := toUint_of_whole? h
  obtain ⟨hint, hintFails⟩ := gives_and_fails host rfl rfl hsigned
  obtain ⟨huint, huintFails⟩ := gives_and_fails host rfl rfl hunsigned
  exact
    { toInt_gives w := by simp only [hint, IsInt, Literal.fitSigned_eq_some]
      toInt_fails := by rw [hintFails, Literal.fitSigned_eq_none]
      toUint_gives w := by simp only [huint, IsUint, Literal.fitUnsigned_eq_some]
      toUint_fails := by rw [huintFails, Literal.fitUnsigned_eq_none] }

/-! ### There and back -/

/-- An integer that fits the other type is had back by the other conversion. -/
theorem toInt_of_toUint {i : Int64} (h : Builtin.Gives host .toUint [.int i] w) :
    Builtin.Gives host .toInt [w] (.int i) := by
  obtain ⟨u, rfl, hu⟩ := ((exact_of_whole? host rfl).toUint_gives w).mp h
  exact ((exact_of_whole? host rfl).toInt_gives _).mpr ⟨i, rfl, hu.symm⟩

private theorem toUint_of_toInt {u : UInt64} (h : Builtin.Gives host .toInt [.uint u] w) :
    Builtin.Gives host .toUint [w] (.uint u) := by
  obtain ⟨i, rfl, hi⟩ := ((exact_of_whole? host rfl).toInt_gives w).mp h
  exact ((exact_of_whole? host rfl).toUint_gives _).mpr ⟨u, rfl, hi.symm⟩

/-! ### Integers and their texts -/

private theorem toInt_print (host : Host) (i : Int64) :
    Builtin.Gives host .toInt [.text (Value.int i).print] (.int i) := by
  rw [Builtin.gives_iff rfl]
  refine ⟨rfl, ?_⟩
  show toInt (.text (toString i.toInt)) = _
  simp only [toInt, Value.indirect, readSigned_toString, Int64.ofInt_toInt]

private theorem toUint_print (host : Host) (u : UInt64) :
    Builtin.Gives host .toUint [.text (Value.uint u).print] (.uint u) := by
  rw [Builtin.gives_iff rfl]
  refine ⟨rfl, ?_⟩
  show toUint (.text (toString u.toNat)) = _
  simp only [toUint, Value.indirect, readUnsigned_toString, UInt64.ofNat_toNat]

/-- The text of an integer is a literal that evaluates to the integer. -/
theorem literal_print (host : Host) (i : Int64) :
    ∃ l, Literal.parse? (Value.int i).print = some l ∧ ∀ dot span s,
      (OperandForm.number l).eval host dot span [] .invalid s = .done (.ok (.int i), s) := by
  have hinteger : IsInteger (toString i.toInt) 10 i.toInt := isInteger_toString i.toInt
  refine ⟨_, hinteger.parse?_signed, fun dot span s ↦ Literal.eval_number ?_ host dot span s⟩
  have hwhole (l : Literal) (hl : l.text = toString i.toInt) : ¬ l.isFloatSyntax = true :=
    (hinteger.isFloatSyntax_iff hl).not.mpr fun h ↦ absurd h.1 (by decide)
  rw [Literal.value, if_neg (hwhole _ rfl)]

/-- Integers survive their text, and the conversions between integers are exact. -/
theorem integers_survive (host : Host) :
    (∀ i : Int64, Builtin.Gives host .toInt [.text (Value.int i).print] (.int i) ∧
      ∃ l, Literal.parse? (Value.int i).print = some l ∧ ∀ dot span s,
        (OperandForm.number l).eval host dot span [] .invalid s = .done (.ok (.int i), s)) ∧
    (∀ u : UInt64, Builtin.Gives host .toUint [.text (Value.uint u).print] (.uint u)) ∧
    (∀ v n, whole? v = some n → Exact host v n) ∧
    (∀ i w, Builtin.Gives host .toUint [.int i] w → Builtin.Gives host .toInt [w] (.int i)) ∧
    (∀ u w, Builtin.Gives host .toInt [.uint u] w → Builtin.Gives host .toUint [w] (.uint u)) :=
  ⟨fun i ↦ ⟨toInt_print host i, literal_print host i⟩, toUint_print host,
    fun _ _ h ↦ exact_of_whole? host h, fun _ _ h ↦ toInt_of_toUint h,
    fun _ _ h ↦ toUint_of_toInt h⟩

/-- The least signed integer and the greatest unsigned one survive their text, and neither fits the
other type. The greatest signed integer is had back from an unsigned one. -/
theorem integers_survive_extremes :
    Builtin.Gives .empty .toInt [.text "-9223372036854775808"] (.int Int64.minValue) ∧
      Builtin.Gives .empty .toUint [.text "18446744073709551615"] (.uint 18446744073709551615) ∧
      Builtin.Fails .empty .toUint [.int Int64.minValue] ∧
      Builtin.Fails .empty .toInt [.some (.uint 18446744073709551615) none] ∧
      ∃ w, Builtin.Gives .empty .toUint [.int Int64.maxValue] w ∧
        Builtin.Gives .empty .toInt [w] (.int Int64.maxValue) := by
  obtain ⟨hint, huint, hexact, hback, -⟩ := integers_survive .empty
  have hleast : (Value.int Int64.minValue).print = "-9223372036854775808" := by decide +kernel
  have hgreatest : (Value.uint 18446744073709551615).print = "18446744073709551615" := by
    decide +kernel
  refine ⟨hleast ▸ (hint _).1, hgreatest ▸ huint _, ?_, ?_, ?_⟩
  · exact (hexact (.int Int64.minValue) _ rfl).toUint_fails.mpr (by decide)
  · exact (hexact (.some (.uint 18446744073709551615) none) _ rfl).toInt_fails.mpr (by decide)
  · have hgives : Builtin.Gives .empty .toUint [.int Int64.maxValue]
        (.uint Int64.maxValue.toUInt64) :=
      ((hexact (.int Int64.maxValue) _ rfl).toUint_gives _).mpr ⟨_, rfl, by decide⟩
    exact ⟨_, hgives, hback _ _ hgives⟩

end Convert

end TextTemplate
