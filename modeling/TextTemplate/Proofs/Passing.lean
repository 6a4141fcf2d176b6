import Mathlib.Logic.Relation
import TextTemplate.Proofs.Ending

/-!
# Errors that pass through steps

An error that is fatal, a signal or located passes through the steps of a render: it may get a site
and a span where it has none, and records the template calls that it leaves. One step relays another
one that it does if it fails with such an error whenever the other one does.
-/

set_option autoImplicit false

namespace TextTemplate

variable {host : Host}

namespace EvalError

/-- An error as it may leave steps that it passes through. A site and a span are set only where
there was none, and not for a signal. The calls that it then left come before those that it had
left. -/
structure PassesTo (e e' : EvalError) : Prop where
  cause : e'.cause = e.cause
  signal : e'.signal = e.signal
  fatal : e'.fatal = e.fatal
  traced : e'.traced = e.traced
  site : e.site.isSome = true ∨ e.isSignal = true → e'.site = e.site
  span : e.span.isSome = true ∨ e.isSignal = true → e'.span = e.span
  frames : e.frames <:+ e'.frames

namespace PassesTo

variable {a b c : EvalError}

/-- An error passes to itself. -/
theorem refl (e : EvalError) : e.PassesTo e := ⟨rfl, rfl, rfl, rfl, fun _ ↦ rfl, fun _ ↦ rfl,
  List.suffix_rfl⟩

private theorem isSignal (h : a.PassesTo b) : b.isSignal = a.isSignal := by
  rw [EvalError.isSignal, EvalError.isSignal, h.signal]

/-- What an error passes to passes on in turn. -/
theorem trans (h : a.PassesTo b) (k : b.PassesTo c) : a.PassesTo c where
  cause := k.cause.trans h.cause
  signal := k.signal.trans h.signal
  fatal := k.fatal.trans h.fatal
  traced := k.traced.trans h.traced
  site hs := by
    have hb := h.site hs
    rw [← hb, ← h.isSignal] at hs
    exact (k.site hs).trans hb
  span hs := by
    have hb := h.span hs
    rw [← hb, ← h.isSignal] at hs
    exact (k.span hs).trans hb
  frames := h.frames.trans k.frames

/-- An error that may not be replaced stays one. -/
theorem isWrappable (h : a.PassesTo b) (ha : a.isWrappable = false) : b.isWrappable = false := by
  rw [EvalError.isWrappable, h.fatal, h.signal]
  cases hs : a.site with
  | none =>
    have hplain : (!a.fatal && a.signal.isNone) = false := by
      simpa only [EvalError.isWrappable, hs, Option.isNone_none, Bool.and_true] using ha
    rw [hplain, Bool.false_and]
  | some site =>
    have hb := h.site (.inl (by rw [hs]; rfl))
    rw [hb, hs, Option.isNone_some, Bool.and_false]

/-- An error passes to itself with a location. -/
theorem locate (s : State) (e : EvalError) : e.PassesTo (s.locate e) := by
  rw [State.locate]
  split
  · exact refl e
  · next h =>
    rw [Bool.or_eq_true] at h
    refine ⟨rfl, rfl, rfl, rfl, fun hs ↦ absurd hs h, ?_, List.suffix_rfl⟩
    intro hs
    obtain ⟨span, hspan⟩ := Option.isSome_iff_exists.mp (hs.resolve_right fun k ↦ h (.inr k))
    simp only [hspan, Option.some_or]

/-- An error passes to itself with a frame. -/
theorem withFrame (e : EvalError) (name : String) (location : Option String) :
    e.PassesTo (e.withFrame name location) :=
  ⟨rfl, rfl, rfl, rfl, fun _ ↦ rfl, fun _ ↦ rfl, List.suffix_cons ..⟩

end PassesTo

end EvalError

/-- A step of a render with the state in which it begins. -/
structure Act where
  {α : Type}
  walk : Walk α
  state : State

/-- A step fails with an error. -/
def Act.Fails (host : Host) (act : Act) (e : EvalError) : Prop :=
  ∃ u, (act.walk act.state).Ends host (.error e, u)

/-- A step fails where a part of it fails with an error that may not be replaced, and with that
error. -/
def Relays (host : Host) (whole part : Act) : Prop :=
  ∀ e, e.isWrappable = false → part.Fails host e → ∃ e', e.PassesTo e' ∧ whole.Fails host e'

namespace Relays

variable {α β : Type} {m : Walk α} {s u : State} {whole act part : Act}

/-- An act relays its own errors. -/
theorem refl (act : Act) : Relays host act act := fun e _ h ↦ ⟨e, .refl e, h⟩

/-- An act relays the errors that its part relays. -/
theorem trans (h : Relays host whole act) (k : Relays host act part) : Relays host whole part := by
  intro e he hf
  obtain ⟨e₁, h₁, hf₁⟩ := k e he hf
  obtain ⟨e₂, h₂, hf₂⟩ := h e₁ (h₁.isWrappable he) hf₁
  exact ⟨e₂, h₁.trans h₂, hf₂⟩

/-- A step fails as the first of its steps. -/
theorem first {f : α → Walk β} : Relays host ⟨m >>= f, s⟩ ⟨m, s⟩ :=
  fun e _ ⟨u, h⟩ ↦ ⟨e, .refl e, u, Walk.bind_ends_error h⟩

/-- A step fails as the one after the first. -/
theorem next {f : α → Walk β} {a : α} (hm : (m s).Ends host (.ok a, u)) :
    Relays host ⟨m >>= f, s⟩ ⟨f a, u⟩ :=
  fun e _ ⟨v, h⟩ ↦ ⟨e, .refl e, v, Walk.bind_ends hm h⟩

/-- Only the run of a step counts. -/
theorem of_run_eq {m' : Walk α} (h : m' s = m s) : Relays host ⟨m', s⟩ ⟨m, s⟩ := by
  rintro e - ⟨u, hf⟩
  refine ⟨e, .refl e, u, ?_⟩
  show (m' s).Ends host _
  rw [h]
  exact hf

/-- A result that is a value relays the errors of what comes next. -/
theorem ofExcept {x : Except EvalError β} {k : β → Walk α} {b : β} (h : x = .ok b) :
    Relays host ⟨Walk.ofExcept x >>= k, s⟩ ⟨k b, s⟩ :=
  next (.value (h ▸ rfl))

/-- A change after a step lets errors through. -/
theorem after {f : State → State} : Relays host ⟨m.after f, s⟩ ⟨m, s⟩ :=
  fun e _ ⟨u, h⟩ ↦ ⟨e, .refl e, f u, Walk.after_ends h trivial⟩

/-- A step that looks at an error and in the end fails with it. -/
theorem attempted {k : Except EvalError α → Walk β}
    (hk : ∀ e u, ∃ v, k (.error e) u = .done (.error e, v)) :
    Relays host ⟨m.attempt >>= k, s⟩ ⟨m, s⟩ := by
  rintro e - ⟨u, hu⟩
  obtain ⟨v, hv⟩ := hk e u
  exact ⟨e, .refl e, v, Walk.bind_ends (Walk.attempt_ends_error hu) (.value hv)⟩

/-- A step with a change of its errors fails where the step does, with an error as changed. -/
theorem mapError {f : State → EvalError → EvalError}
    (hf : ∀ (s : State) (e : EvalError), e.PassesTo (f s e)) :
    Relays host ⟨m.mapError f, s⟩ ⟨m, s⟩ :=
  fun e _ ⟨u, h⟩ ↦ ⟨f u e, hf u e, u, Walk.mapError_ends_error h⟩

/-- Asking for a task relays the errors of the task. -/
theorem ask {task : Task} : Relays host ⟨Walk.ask task, s⟩ ⟨Walk.start host task, s⟩ :=
  fun e _ ⟨u, h⟩ ↦ ⟨e, .refl e, u, Walk.ask_ends h⟩

end Relays

end TextTemplate
