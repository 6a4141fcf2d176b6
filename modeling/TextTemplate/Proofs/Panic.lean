import TextTemplate.Proofs.Ordinary

/-!
# Panics

A panic comes out of a plain computation. Those of the host may panic, and so do the function that
formats texts, when it is asked for too much, and calls by name that nest too deep. A program is
within a host if its plain computations panic with no other messages.
-/

set_option autoImplicit false

namespace TextTemplate

variable {α β : Type} {host : Host} {message : Option String}

/-- Some answers lead a plain computation to a panic with a message. -/
def Plain.Panics (message : Option String) : Plain α → Prop
  | .done _ | .fail _ => False
  | .panic m => m = message
  | .host _ next => ∃ v, (next v).Panics message
  | .queued _ next => ∃ n, (next n).Panics message
  | .callNamed _ _ _ next => ∃ x, (next x).Panics message

/-- Some answers lead a program to a panic with a message. -/
def Program.Panics (message : Option String) : Program α → Prop
  | .finish p => p.Panics message
  | .run p next => p.Panics message ∨ ∃ x, (next x).Panics message
  | .view next => ∃ v, (next v).Panics message
  | .newObject _ next => ∃ v, (next v).Panics message
  | .receive _ next => ∃ v, (next v).Panics message
  | .updateStore _ next => next.Panics message
  | .write _ next => ∃ x, (next x).Panics message
  | .callValue _ _ next => ∃ x, (next x).Panics message
  | .runBlock _ _ _ _ next => ∃ x, (next x).Panics message
  | .render _ _ next => ∃ x, (next x).Panics message
  | .yield _ _ next => ∃ x, (next x).Panics message

/-- A function or a factory of the host panics with a message. -/
inductive Host.Panics (host : Host) (message : Option String) : Prop where
  | plain (id : Nat) (context : Option Context) (args : List Value) :
      (host.plain id context args).Panics message → Panics host message
  | stateful (id : Nat) (context : Option Context) (args : List Value) :
      (host.stateful id context args).Panics message → Panics host message
  | build (id : Nat) (context : Context) :
      (host.build id context).Panics message → Panics host message

/-- The messages that a panic may come with. -/
def Host.MayPanic (host : Host) (message : Option String) : Prop :=
  host.Panics message ∨ message = some "Formatting argument out of range" ∨
    message = some "function calls nest too deep"

/-- A plain computation panics with no other messages. -/
def Plain.Within (host : Host) (p : Plain α) : Prop :=
  ∀ message, p.Panics message → host.MayPanic message

/-- The plain computations of a program panic with no other messages, and the function values that
it calls are among some, whatever answers it gets. -/
def Program.Within (host : Host) (calls : Value → List Value → Prop) : Program α → Prop
  | .finish p => p.Within host
  | .run p next => p.Within host ∧ ∀ x, (next x).Within host calls
  | .view next => ∀ v, (next v).Within host calls
  | .newObject _ next => ∀ v, (next v).Within host calls
  | .receive _ next => ∀ v, (next v).Within host calls
  | .updateStore _ next => next.Within host calls
  | .write _ next => ∀ x, (next x).Within host calls
  | .callValue f args next => calls f args ∧ ∀ x, (next x).Within host calls
  | .runBlock _ _ _ _ next => ∀ x, (next x).Within host calls
  | .render _ _ next => ∀ x, (next x).Within host calls
  | .yield _ _ next => ∀ x, (next x).Within host calls

private theorem Program.within_anyCall {p : Program α} (h : ∀ m, p.Panics m → host.MayPanic m) :
    p.Within host anyCall := by
  induction p with
  | finish p => exact h
  | updateStore _ _ ih => exact ih h
  | run p next ih =>
    refine ⟨fun m hm ↦ h m (.inl hm), ?_⟩
    intro x
    apply ih
    intro m hm
    exact h m (.inr ⟨x, hm⟩)
  | callValue _ _ _ ih =>
    refine ⟨trivial, ?_⟩
    intro x
    apply ih
    intro m hm
    exact h m ⟨x, hm⟩
  | view _ ih | newObject _ _ ih | receive _ _ ih | write _ _ ih | runBlock _ _ _ _ _ ih
  | render _ _ _ ih | yield _ _ _ ih =>
    intro x
    apply ih
    intro m hm
    exact h m ⟨x, hm⟩

/-! ### Plain computations -/

namespace Plain

private theorem Ordinary.within {p : Plain α} (h : p.Ordinary) : p.Within host := by
  induction h with
  | done | fail => exact fun _ h ↦ h.elim
  | outOfRange =>
    rintro m rfl
    exact .inr (.inl rfl)
  | queued _ ih =>
    rintro m ⟨n, hm⟩
    exact ih n m hm

/-- A computation ends with a panic of its own, or with one of the calls that it makes. -/
theorem runWith_panics {call : NamedCall}
    (hc : ∀ c name args r m, (call c name args r).1 = .panic m → host.MayPanic m) {p : Plain α}
    {r : Resources} (h : (p.runWith call r).1 = .panic message) :
    p.Panics message ∨ host.MayPanic message := by
  induction p generalizing r with
  | done | fail => cases h
  | panic m =>
    cases h
    exact .inl rfl
  | host update next ih => exact (ih _ h).imp_left fun hm ↦ ⟨_, hm⟩
  | queued channel next ih => exact (ih _ h).imp_left fun hm ↦ ⟨_, hm⟩
  | callNamed c name args next ih =>
    rw [runWith] at h
    cases hr : call c name args r with
    | mk outcome r' =>
      rw [hr] at h
      cases outcome with
      | ok v => exact (ih _ h).imp_left fun hm ↦ ⟨_, hm⟩
      | error e => exact (ih _ h).imp_left fun hm ↦ ⟨_, hm⟩
      | panic m =>
        cases h
        exact .inr (hc c name args r _ (by rw [hr]))

end Plain

private theorem Ended.andThen_panic {x : Ended α} {f : α → Resources → Ended β}
    (h : (x.andThen f).1 = .panic message) :
    x.1 = .panic message ∨ ∃ a r, (f a r).1 = .panic message := by
  obtain ⟨outcome, r⟩ := x
  cases outcome with
  | ok a => exact .inr ⟨a, r, h⟩
  | error e => cases h
  | panic m =>
    cases h
    exact .inl rfl

/-! ### Functions -/

namespace Function

private theorem plainProgram_within {f : Function} {args : List Value}
    (h : f.arity.accepts args.length = true) : (f.plainProgram host args).Within host := by
  cases hs : f.stateful with
  | true =>
    rw [plainProgram, hs]
    exact fun _ h ↦ h.elim
  | false =>
    rw [plainProgram_of_accepts hs h, plainBody]
    split
    · exact (Builtin.plain_ordinary _ _).within
    · exact fun m h ↦ .inl (.plain _ _ _ h)

end Function

private theorem FuncValue.resolve_within (context : Context) (f : FuncValue) :
    (f.resolve host context).Within host := by
  cases f with
  | direct f => exact fun _ h ↦ h.elim
  | contextBound id => exact fun m h ↦ .inl (.build _ _ h)

private theorem Context.callWithin_panics {limit : Nat} {c : Context} {name : String}
    {args : List Value}
    {r : Resources} (h : (c.callWithin host limit name args r).1 = .panic message) :
    host.MayPanic message := by
  induction limit generalizing message c name args r with
  | zero =>
    cases h
    exact .inr (.inr rfl)
  | succ limit ih =>
    have within {γ : Type} {p : Plain γ} {r : Resources} (hp : p.Within host)
        (h : (p.runWith (callWithin host limit) r).1 = .panic message) :
        host.MayPanic message := by
      rcases Plain.runWith_panics (fun _ _ _ _ _ ↦ ih) h with hm | hm
      · exact hp message hm
      · exact hm
    rw [callWithin] at h
    split at h
    · cases h
    · obtain h | ⟨f, r, h⟩ := Ended.andThen_panic h
      · exact within (FuncValue.resolve_within _ _) h
      · split at h
        · cases h
        · next hc =>
          obtain h | ⟨_, _, h⟩ := Ended.andThen_panic h
          · exact within (Function.plainProgram_within (Function.accepts_of_checkArity hc)) h
          · cases h

/-- A plain computation within a host ends with no other panics. -/
theorem Plain.run_panics {p : Plain α} (hp : p.Within host) {r : Resources}
    (h : (p.run host r).1 = .panic message) : host.MayPanic message := by
  rcases runWith_panics (fun _ _ _ _ _ ↦ Context.callWithin_panics) h with hm | hm
  · exact hp message hm
  · exact hm

/-! ### Programs of functions -/

namespace Program

variable {calls : Value → List Value → Prop}

/-- A program that only fails calls nothing. -/
theorem within_fail (e : EvalError) : (fail e : Program α).Within host calls := fun _ h ↦ h.elim

private theorem within_orFail {next : β → Program α} (h : ∀ b, (next b).Within host calls)
    (x : Except EvalError β) : (orFail next x).Within host calls := by
  cases x with
  | ok b => exact h b
  | error e => exact within_fail e

/-- An ordinary program panics only where a text cannot be formatted. -/
theorem Ordinary.within {p : Program α} (h : p.Ordinary calls) : p.Within host calls := by
  induction h with
  | finish h => exact h.within
  | updateStore _ ih => exact ih
  | callValue hc _ ih => exact ⟨hc, within_orFail ih⟩
  | view _ _ ih | newObject _ ih | receive _ ih => exact ih
  | write _ ih | runBlock _ ih | render _ ih | yield _ ih => exact within_orFail ih

end Program

/-- Every function stays within its host, if it accepts the number of its arguments. -/
theorem Function.program_within {f : Function} {args : List Value}
    (h : f.arity.accepts args.length = true) : (f.program host args).Within host anyCall := by
  rw [program_of_accepts h, body]
  split
  · exact (Builtin.stateful_ordinary _ trivial).within
  · split
    · exact Program.within_anyCall fun m h ↦ .inl (.stateful _ _ _ h)
    · exact fun m h ↦ .inl (.plain _ _ _ h)

end TextTemplate
