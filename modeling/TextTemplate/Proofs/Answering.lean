import TextTemplate.Program.Call
import TextTemplate.Proofs.Contract

/-!
# Answers of built-in functions

A call of a built-in function by its name, without a running render (`Builtin.answer`) or in one
(`Builtin.run`): the number of arguments is checked first. A function that looks at nothing but its
arguments answers with a value or with an error, and with nothing else (`Builtin.gives_or_fails`).
A slice might panic, where a part is taken that is not there.
-/

set_option autoImplicit false

namespace TextTemplate.Builtin

/-- A call of a function by its name. -/
def answer (host : Host) (b : Builtin) (args : List Value) : Plain Results :=
  match (Function.ofBuiltin b).checkArity b.name args.length with
  | .error e => .fail e
  | .ok _ => (Function.ofBuiltin b).plainProgram host args

/-- A call answers with a value. -/
def Gives (host : Host) (b : Builtin) (args : List Value) (v : Value) : Prop :=
  b.answer host args = .done (.single v)

/-- A call answers with an error. -/
def Fails (host : Host) (b : Builtin) (args : List Value) : Prop :=
  ∃ e, b.answer host args = .fail e

/-- Whether a function looks at nothing but its arguments, and there is nothing in it that might
panic. -/
def isPure (b : Builtin) : Bool :=
  !b.isStateful && b != .slice && b != .len && b != .printf

variable {host : Host} {b : Builtin} {args : List Value} {v : Value}

/-- Without a running render a function does what it is made for, with arguments enough and not too
many. -/
theorem answer_of_not_stateful (h : b.isStateful = false) (host : Host) (args : List Value) :
    b.answer host args =
      if b.arity.accepts args.length then b.plain args
      else .fail (.arityMismatch b.name b.arity args.length) := by
  have hstateful : (Function.ofBuiltin b).stateful = false := h
  rw [answer, Function.checkArity]
  show (match (if b.arity.accepts args.length then _ else _ : Except EvalError Unit) with
    | .error e => _
    | .ok _ => _) = _
  split
  · next he =>
    split at he
    · cases he
    · next hrefused =>
      cases he
      rw [if_neg hrefused]
      rfl
  · next he =>
    split at he
    · next haccepts =>
      rw [if_pos haccepts, Function.plainProgram_of_accepts hstateful haccepts]
      rfl
    · cases he

private theorem plain_of_isPure (h : b.isPure = true) (args : List Value) :
    b.plain args = .ofExcept ((b.pureResult args).map .single) := by
  cases b with
  | slice | len | printf => cases h
  | _ => rfl

private theorem answer_eq (h : b.isPure = true) (host : Host) (args : List Value) :
    b.answer host args =
      if b.arity.accepts args.length then .ofExcept ((b.pureResult args).map .single)
      else .fail (.arityMismatch b.name b.arity args.length) := by
  have hstateful : b.isStateful = false := by
    simp only [isPure, Bool.and_eq_true, Bool.not_eq_true'] at h
    exact h.1.1.1
  rw [answer_of_not_stateful hstateful, plain_of_isPure h]

/-- A function gives the value that it is made to, for a number of arguments that it accepts. -/
theorem gives_iff (h : b.isPure = true) :
    Gives host b args v ↔ b.arity.accepts args.length = true ∧ b.pureResult args = .ok v := by
  rw [Gives, answer_eq h]
  split
  · next haccepts =>
    cases b.pureResult args <;> simp [haccepts, Plain.ofExcept, Except.map]
  · next hrefused => simp [hrefused]

/-- A function fails for a wrong number of arguments, or if its result is an error. -/
theorem fails_iff (h : b.isPure = true) :
    Fails host b args ↔
      b.arity.accepts args.length = false ∨ ∃ e, b.pureResult args = .error e := by
  rw [Fails, answer_eq h]
  split
  · next haccepts =>
    cases b.pureResult args <;> simp [haccepts, Plain.ofExcept, Except.map]
  · next hrefused => simp [hrefused]

/-- A function that looks at nothing but its arguments answers in one of two ways. -/
theorem gives_or_fails (h : b.isPure = true) (host : Host) (args : List Value) :
    (∃ v, Gives host b args v) ∨ Fails host b args := by
  simp only [Gives, Fails, answer_eq h]
  split
  · cases b.pureResult args with
    | ok v => exact .inl ⟨v, rfl⟩
    | error e => exact .inr ⟨e, rfl⟩
  · exact .inr ⟨_, rfl⟩

/-- Where a call answers, it fails just if it gives no value. -/
theorem fails_iff_not_gives (h : (∃ v, Gives host b args v) ∨ Fails host b args) :
    Fails host b args ↔ ∀ v, ¬ Gives host b args v := by
  constructor
  · rintro ⟨e, he⟩ v hv
    rw [Gives, he] at hv
    cases hv
  · intro hnone
    obtain ⟨v, hv⟩ | hfails := h
    · exact absurd hv (hnone v)
    · exact hfails

/-! ### In a render -/

/-- A call of a function by its name in a render. -/
def run (host : Host) (b : Builtin) (args : List Value) : Walk Results := do
  Walk.ofExcept ((Function.ofBuiltin b).checkArity b.name args.length)
  Walk.program host ((Function.ofBuiltin b).program host args)

variable {s : State}

/-- With arguments enough, and not too many, a function does what it is made for. -/
theorem run_of_accepts (h : b.arity.accepts args.length = true) (host : Host) (s : State) :
    b.run host args s = Walk.program host (b.stateful args) s := by
  have hchecked : (Function.ofBuiltin b).checkArity b.name args.length = .ok () := if_pos h
  have hprogram : (Function.ofBuiltin b).program host args = b.stateful args :=
    Function.program_of_accepts h
  rw [run, hchecked, hprogram]
  rfl

/-- With another number of arguments nothing is done. -/
theorem run_of_refused (h : b.arity.accepts args.length = false) (host : Host) (s : State) :
    b.run host args s = .done (.error (.arityMismatch b.name b.arity args.length), s) := by
  have hchecked : (Function.ofBuiltin b).checkArity b.name args.length =
      .error (.arityMismatch b.name b.arity args.length) :=
    if_neg (ne_true_of_eq_false h)
  rw [run, hchecked]
  rfl

end TextTemplate.Builtin
