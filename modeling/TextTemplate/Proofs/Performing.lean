import TextTemplate.Proofs.Ordinary
import TextTemplate.Proofs.Passing

/-!
# What programs do

A program does one thing after the other, each with an answer by which it goes on. A program passes
on errors if it fails with every error that it receives and may not replace. The built-in functions
do so with every error, and the errors that they make themselves are fresh
(`Builtin.stateful_straight`).
-/

set_option autoImplicit false

namespace TextTemplate

variable {α β : Type} {host : Host}

namespace Program

/-- What a program does first, and how it goes on with the answer. -/
structure Beginning (α : Type) where
  {β : Type}
  walk : Walk β
  next : Except EvalError β → Program α

/-- What a program does first, unless it ends with a plain computation. -/
def begin? (host : Host) : Program α → Option (Beginning α)
  | .finish _ => none
  | .run p next => some ⟨Walk.plain host p, next⟩
  | .view next => some ⟨Walk.read State.view, orFail next⟩
  | .newObject o next => some ⟨Walk.newObject o, orFail next⟩
  | .receive channel next => some ⟨Walk.receive channel, orFail next⟩
  | .updateStore update next =>
    some ⟨Walk.modify fun s ↦ { s with resources := s.resources.updateStore s.exec.store update },
      orFail fun _ ↦ next⟩
  | .write text next => some ⟨Walk.writeText text, next⟩
  | .callValue f args next => some ⟨Walk.ask (.call f args), next⟩
  | .runBlock handle dot args captured next =>
    some ⟨Walk.runBlock handle dot args captured, next⟩
  | .render template data next =>
    some ⟨Walk.renderNested template (data.getD .invalid), fun r ↦ next (r.map Text.decodeText)⟩
  | .yield template data next =>
    some ⟨Walk.renderNested template (data.getD .invalid) >>= Walk.write, next⟩

/-- A program acts as it begins, and then goes on. -/
theorem program_run {p : Program α} {b : Beginning α} (h : p.begin? host = some b) (s : State) :
    Walk.program host p s = (b.walk.attempt >>= fun r ↦ Walk.program host (b.next r)) s := by
  cases p with
  | finish => cases h
  | receive channel next =>
    cases h
    obtain ⟨v, u, hr⟩ : ∃ v u, Walk.receive channel s = .done (.ok v, u) := ⟨_, _, rfl⟩
    show (Walk.receive channel >>= fun v ↦ Walk.program host (next v)) s =
      ((Walk.receive channel).attempt >>= fun r ↦ Walk.program host (orFail next r)) s
    rw [Walk.bind_run, Walk.bind_run, Walk.attempt, hr]
    rfl
  | _ =>
    cases h
    rfl

/-- A program does something at a state: what it begins with, or what it does after it got answers,
or the plain computation that it ends with. -/
inductive Performs (host : Host) : Program α → State → Act → Prop where
  | finish {p : Plain α} {s : State} : Performs host (.finish p) s ⟨Walk.plain host p, s⟩
  | first {p : Program α} {b : Beginning α} {s : State} :
      p.begin? host = some b → Performs host p s ⟨b.walk, s⟩
  | later {p : Program α} {b : Beginning α} {s u : State} {r : Except EvalError b.β} {act : Act} :
      p.begin? host = some b → (b.walk.attempt s).Ends host (.ok r, u) →
        Performs host (b.next r) u act → Performs host p s act

/-- A program ends with an error, from whatever state. -/
def EndsWith (host : Host) (p : Program α) (e : EvalError) : Prop :=
  ∀ s, (⟨Walk.program host p, s⟩ : Act).Fails host e

/-- A program ends with every error that it gets as an answer and may not replace. -/
inductive PassesOn (host : Host) : Program α → Prop where
  | finish (p : Plain α) : PassesOn host (.finish p)
  | act {p : Program α} {b : Beginning α} :
      p.begin? host = some b → (∀ e, e.isWrappable = false → (b.next (.error e)).EndsWith host e) →
        (∀ r, PassesOn host (b.next r)) → PassesOn host p

private theorem endsWith_fail (e : EvalError) : (fail e : Program α).EndsWith host e :=
  fun _ ↦ ⟨_, .value rfl⟩

/-- A program that goes on with values alone passes on errors. -/
theorem PassesOn.orFail {p : Program α} {m : Walk β} {next : β → Program α}
    (h : p.begin? host = some ⟨m, Program.orFail next⟩) (hn : ∀ b, (next b).PassesOn host) :
    p.PassesOn host := by
  refine .act h (fun e _ ↦ endsWith_fail e) ?_
  intro r
  cases r with
  | ok b => exact hn b
  | error e => exact .finish _

/-- A program that passes on errors relays what it does. -/
theorem Performs.relays {p : Program α} {s : State} {act : Act} (h : Performs host p s act)
    (hp : p.PassesOn host) : Relays host ⟨Walk.program host p, s⟩ act := by
  induction h with
  | finish => exact .refl _
  | first h =>
    cases hp with
    | finish => cases h
    | act hb he _ =>
      cases h.symm.trans hb
      intro e hw ⟨u, hf⟩
      obtain ⟨v, hv⟩ := he e hw u
      refine ⟨e, .refl e, v, ?_⟩
      show (Walk.program host _ _).Ends host _
      rw [program_run h]
      exact Walk.bind_ends (Walk.attempt_ends_error hf) hv
  | later h hr _ ih =>
    cases hp with
    | finish => cases h
    | act hb _ hn =>
      cases h.symm.trans hb
      exact ((Relays.of_run_eq (program_run h _)).trans (.next hr)).trans (ih (hn _))

end Program

/-! ### Errors of one's own -/

/-- A computation makes an error: it fails with it, and did not get it from another one. -/
inductive Plain.Raises : Plain α → EvalError → Prop where
  | fail (e : EvalError) : Raises (.fail e) e
  | host {update : Value → Value} {next : Value → Plain α} {v : Value} {e : EvalError} :
      Raises (next v) e → Raises (.host update next) e
  | queued {channel n : Nat} {next : Nat → Plain α} {e : EvalError} :
      Raises (next n) e → Raises (.queued channel next) e
  | callNamed {context : Context} {name : String} {args : List Value}
      {next : Except EvalError Value → Plain α} {r : Except EvalError Value} {e : EvalError} :
      r ≠ .error e → Raises (next r) e → Raises (.callNamed context name args next) e

/-- An ordinary computation makes fresh errors only. -/
theorem Plain.Ordinary.frames_eq_nil {p : Plain α} (h : p.Ordinary) {e : EvalError}
    (hr : p.Raises e) : e.frames = [] := by
  induction h with
  | done => cases hr
  | fail h =>
    cases hr
    exact h
  | outOfRange => cases hr
  | queued _ ih =>
    cases hr with
    | queued hr => exact ih _ hr

namespace Program

/-- Whether a program runs a plain computation before anything else. -/
def runs : Program α → Bool
  | .run .. => true
  | _ => false

/-- A program makes an error: it fails with it, and did not get it as an answer. -/
inductive Raises (host : Host) : Program α → EvalError → Prop where
  | finish {p : Plain α} {e : EvalError} : p.Raises e → Raises host (.finish p) e
  | run {p : Plain Value} {next : Except EvalError Value → Program α} {e : EvalError} :
      p.Raises e → Raises host (.run p next) e
  | later {p : Program α} {b : Beginning α} {r : Except EvalError b.β} {e : EvalError} :
      p.begin? host = some b → r ≠ .error e → Raises host (b.next r) e → Raises host p e

/-- A program ends with every error that it gets as an answer, and makes fresh ones only. -/
inductive Straight (host : Host) : Program α → Prop where
  | finish {p : Plain α} : (∀ e, p.Raises e → e.frames = []) → Straight host (.finish p)
  | act {p : Program α} {b : Beginning α} :
      p.begin? host = some b → p.runs = false → (∀ e, b.next (.error e) = fail e) →
        (∀ a, Straight host (b.next (.ok a))) → Straight host p

namespace Straight

variable {p : Program α}

/-- A program that goes on with values alone. -/
theorem orFail {m : Walk β} {next : β → Program α}
    (h : p.begin? host = some ⟨m, Program.orFail next⟩) (hr : p.runs = false)
    (hn : ∀ b, (next b).Straight host) : p.Straight host :=
  .act h hr (fun _ ↦ rfl) hn

private theorem passesOn (h : p.Straight host) : p.PassesOn host := by
  induction h with
  | finish => exact .finish _
  | act hb _ he _ ih =>
    apply PassesOn.act hb
    · intro e _
      rw [he]
      exact endsWith_fail e
    · intro r
      cases r with
      | ok a => exact ih a
      | error e =>
        rw [he]
        exact .finish _

/-- The errors that a straight program raises are fresh. -/
theorem frames_eq_nil (h : p.Straight host) {e : EvalError} (hr : p.Raises host e) :
    e.frames = [] := by
  induction h with
  | finish h =>
    cases hr with
    | finish hp => exact h e hp
    | later hb => cases hb
  | act hb hruns he _ ih =>
    cases hr with
    | finish => cases hb
    | run => cases hruns
    | @later _ _ r _ hb' hr hnext =>
      cases hb.symm.trans hb'
      cases r with
      | ok a => exact ih a hnext
      | error x =>
        rw [he] at hnext
        cases hnext with
        | finish hp =>
          cases hp
          exact (hr rfl).elim
        | later hb'' => cases hb''

end Straight

end Program

/-- An ordinary program passes on errors, and makes fresh ones only. -/
theorem Program.Ordinary.straight {calls : Value → List Value → Prop} {p : Program α}
    (h : p.Ordinary calls) : p.Straight host := by
  induction h with
  | finish h => exact .finish fun _ hr ↦ h.frames_eq_nil hr
  | updateStore _ ih => exact .orFail rfl rfl fun _ ↦ ih
  | render _ ih => exact .act rfl rfl (fun _ ↦ rfl) fun _ ↦ ih _
  | view _ _ ih | newObject _ ih | receive _ ih | write _ ih | callValue _ _ ih | runBlock _ ih
  | yield _ ih => exact .orFail rfl rfl ih

/-- The built-in functions pass on errors, and make fresh ones only. -/
theorem Builtin.stateful_straight (b : Builtin) (args : List Value) :
    (b.stateful args).Straight host := by
  have h : (b.stateful args).Ordinary anyCall := b.stateful_ordinary trivial
  exact h.straight

/-- The functions of a host pass on errors. -/
def Host.PassesOn (host : Host) : Prop :=
  ∀ id context args, (host.stateful id context args).PassesOn host

/-- The functions of a host that passes on errors pass them on. -/
theorem Function.program_passesOn (h : host.PassesOn) (f : Function) (args : List Value) :
    (f.program host args).PassesOn host := by
  rw [program]
  split
  · rw [body]
    split
    · exact (Builtin.stateful_straight ..).passesOn
    · split
      · exact h ..
      · exact .finish _
  · exact .finish _

end TextTemplate
