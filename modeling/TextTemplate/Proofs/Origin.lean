import TextTemplate.Proofs.Performing

/-!
# Where errors come from

An error is created by the evaluation, by a built-in function or by a function of the host. Apart
from those of the host, errors are created without a call recorded. A computation that needs no
running render fails with an error of its own or with one as it was created
(`Plain.raises_or_original`).
-/

set_option autoImplicit false

namespace TextTemplate

variable {α β : Type} {host : Host}

/-- A host makes an error: one of its functions or factories does. -/
inductive Host.Raises (host : Host) : EvalError → Prop where
  | plain {id : Nat} {context : Option Context} {args : List Value} {e : EvalError} :
      (host.plain id context args).Raises e → Raises host e
  | stateful {id : Nat} {context : Option Context} {args : List Value} {e : EvalError} :
      (host.stateful id context args).Raises host e → Raises host e
  | build {id : Nat} {context : Context} {e : EvalError} :
      (host.build id context).Raises e → Raises host e
  | misuse {f : Function} {args : List Value} {e : EvalError} :
      (host.misuse f args).Raises e → Raises host e

/-- An error that a host made with calls recorded that it never left. -/
def Host.Forges (host : Host) (x : EvalError) : Prop :=
  ∃ e, host.Raises e ∧ e.frames ≠ [] ∧ e.PassesTo x

/-- An error as it is created: without calls, unless the host has made it with some. -/
def Host.Original (host : Host) (x : EvalError) : Prop := x.frames = [] ∨ host.Forges x

/-- What a host raises is an error as it is created. -/
theorem Host.Raises.original {e : EvalError} (h : host.Raises e) : host.Original e := by
  by_cases hf : e.frames = []
  · exact .inl hf
  · exact .inr ⟨e, h, hf, .refl e⟩

/-- An error as it is created stays one where it is located. -/
theorem Host.Original.locate {x : EvalError} (h : host.Original x) (s : State) :
    host.Original (s.locate x) := by
  cases h with
  | inl h =>
    left
    rw [State.locate]
    split
    · exact h
    · exact h
  | inr h =>
    obtain ⟨e, he, hf, hp⟩ := h
    exact .inr ⟨e, he, hf, hp.trans (.locate s x)⟩

/-- A computation fails with an error of its own or with one of those that it called. -/
theorem Plain.raises_or_of_runWith {P : EvalError → Prop} {call : NamedCall}
    (hcall : ∀ {context name args r e r'}, call context name args r = (.error e, r') → P e)
    {p : Plain α} {r r' : Resources} {e : EvalError} (h : p.runWith call r = (.error e, r')) :
    p.Raises e ∨ P e := by
  induction p generalizing r with
  | done a | panic m => cases h
  | fail e' =>
    cases h
    exact .inl (.fail e)
  | host update next ih => exact (ih _ h).imp_left .host
  | queued channel next ih => exact (ih _ h).imp_left .queued
  | callNamed context name args next ih =>
    rw [runWith] at h
    split at h
    · next v _ _ => exact (ih _ h).imp_left (.callNamed (r := .ok v) fun hr ↦ by cases hr)
    · next e' r₁ hc =>
      by_cases he : e' = e
      · exact .inr (he ▸ hcall hc)
      · exact (ih _ h).imp_left (.callNamed (r := .error e') fun hr ↦ he (Except.error.inj hr))
    · cases h

private theorem Ended.of_andThen_error {x : Ended α} {f : α → Resources → Ended β} {e : EvalError}
    {r : Resources} (h : x.andThen f = (.error e, r)) :
    x = (.error e, r) ∨ ∃ a r', x = (.ok a, r') ∧ f a r' = (.error e, r) := by
  obtain ⟨o, r₁⟩ := x
  cases o with
  | ok a => exact .inr ⟨a, r₁, rfl, h⟩
  | error e' =>
    cases h
    exact .inl rfl
  | panic m => cases h

private theorem Function.original_of_plainProgram {f : Function} {args : List Value} {e : EvalError}
    (h : (f.plainProgram host args).Raises e) : host.Original e := by
  rw [plainProgram] at h
  split at h
  · cases h
    exact .inl rfl
  · split at h
    · rw [plainBody] at h
      split at h
      · exact .inl ((Builtin.plain_ordinary ..).frames_eq_nil h)
      · exact (Host.Raises.plain h).original
    · exact (Host.Raises.misuse h).original

private theorem FuncValue.original_of_resolve {f : FuncValue} {context : Context} {e : EvalError}
    (h : (f.resolve host context).Raises e) : host.Original e := by
  cases f with
  | direct f => cases h
  | contextBound id => exact (Host.Raises.build h).original

private theorem Context.original_of_callWithin {limit : Nat} {context : Context} {name : String}
    {args : List Value} {r r' : Resources} {e : EvalError}
    (h : callWithin host limit context name args r = (.error e, r')) : host.Original e := by
  induction limit generalizing context name args r r' e with
  | zero => cases h
  | succ limit ih =>
    rw [callWithin] at h
    split at h
    · cases h
      exact .inl rfl
    · obtain h | ⟨f, r₁, -, h⟩ := Ended.of_andThen_error h
      · exact (Plain.raises_or_of_runWith ih h).elim FuncValue.original_of_resolve id
      · split at h
        · next e' hc =>
          cases h
          exact .inl ((f.checkArity_fresh ..).frames e hc)
        · obtain h | ⟨results, r₂, -, h⟩ := Ended.of_andThen_error h
          · exact (Plain.raises_or_of_runWith ih h).elim Function.original_of_plainProgram id
          · cases h

/-- An error of a computation is raised by it, or is one as it is created. -/
theorem Plain.raises_or_original {p : Plain α} {r r' : Resources} {e : EvalError}
    (h : p.run host r = (.error e, r')) : p.Raises e ∨ host.Original e :=
  raises_or_of_runWith Context.original_of_callWithin h

/-- The errors that a function makes are as they were created. -/
theorem Function.original_of_program {f : Function} {args : List Value} {e : EvalError}
    (h : (f.program host args).Raises host e) : host.Original e := by
  have plain {p : Plain Results} (h : (Program.finish p).Raises host e) : p.Raises e := by
    cases h with
    | finish h => exact h
    | later hb => cases hb
  rw [program] at h
  split at h
  · rw [body] at h
    split at h
    · exact .inl ((Builtin.stateful_straight ..).frames_eq_nil h)
    · split at h
      · exact (Host.Raises.stateful h).original
      · exact (Host.Raises.plain (plain h)).original
  · exact (Host.Raises.misuse (plain h)).original

/-- An error that the next call replaces, or that is as it was created. -/
def Host.Provisional (host : Host) (x : EvalError) : Prop :=
  x.isWrappable = true ∨ host.Original x

end TextTemplate
