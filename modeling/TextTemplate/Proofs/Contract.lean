import TextTemplate.Proofs.Evaluation
import TextTemplate.Proofs.Panic

/-!
# Contracts

What a run may ask for, given what the replies to its requests may be, and what it then ends with.
A contract of a run follows its syntax; that replies are as assumed is an induction over the run of
a task, done once (`Run.Meets.ends`). A step keeps a property of states if it holds again when the
step returns, with a value or an error. Nobody looks at the state that a panic leaves, but a panic
has to come from the host: never is it the lookup of a place beyond the end of a stack.
-/

set_option autoImplicit false

namespace TextTemplate

variable {α β : Type} {host : Host}

/-- Whether a computation ended with a value or an error. -/
def Outcome.Returned : Outcome α → Prop
  | .panic _ => False
  | _ => True

/-- What is known of the end of a step that keeps a property. -/
def Leaves (host : Host) (inv : State → Prop) : Outcome α × State → Prop
  | (.ok _, s) => inv s
  | (.error _, s) => inv s
  | (.panic message, _) => host.MayPanic message

/-- A run asks for tasks of a kind and then ends as stated, whatever replies of a kind it gets. -/
def Run.Meets (asks : Task → State → Prop) (replies : State → Reply → Prop) (post : α → Prop) :
    Run α → Prop
  | .done a => post a
  | .ask task s next => asks task s ∧ ∀ r, replies s r → (next r).Meets asks replies post

variable {asks asks' : Task → State → Prop} {replies : State → Reply → Prop}

namespace Run.Meets

/-- A contract may ask for less and state less. -/
theorem mono {post post' : α → Prop} {x : Run α} (h : x.Meets asks replies post)
    (ha : ∀ task s, asks task s → asks' task s) (hp : ∀ a, post a → post' a) :
    x.Meets asks' replies post' := by
  induction x with
  | done a => exact hp a h
  | ask task s next ih =>
    refine ⟨ha task s h.1, ?_⟩
    intro r hr
    exact ih r (h.2 r hr)

private theorem bind {post : α → Prop} {post' : β → Prop} {x : Run α} {f : α → Run β}
    (h : x.Meets asks replies post) (hf : ∀ a, post a → (f a).Meets asks replies post') :
    (x.bind f).Meets asks replies post' := by
  induction x with
  | done a => exact hf a h
  | ask task s next ih =>
    refine ⟨h.1, ?_⟩
    intro r hr
    exact ih r (h.2 r hr)

/-- If every task has a contract by which its reply is as assumed of replies, then the contract of
a run tells how the run ends. -/
theorem ends {allowed : Task → State → Task → State → Prop}
    (tasks : ∀ task s, (Walk.start host task s).Meets (allowed task s) replies (replies s))
    {post : α → Prop} {x : Run α} {a : α} (h : x.Meets asks replies post)
    (hx : x.Ends host a) : post a := by
  induction hx generalizing asks with
  | done => exact h
  | ask _ _ ihr iha => exact iha (h.2 _ (ihr (tasks _ _)))

/-- The contract of a run tells what the run asks for. -/
theorem asked {allowed : Task → State → Task → State → Prop}
    (tasks : ∀ task s, (Walk.start host task s).Meets (allowed task s) replies (replies s))
    {post : α → Prop} {x : Run α} {task : Task} {s : State} (h : x.Meets asks replies post)
    (hx : x.Asks host task s) : asks task s := by
  induction hx with
  | now => exact h.1
  | later hr _ ih => exact ih (h.2 _ ((tasks _ _).ends tasks hr))

end Run.Meets

/-- A step that leaves a property leaves a weaker one. -/
theorem Leaves.mono {inv inv' : State → Prop} {r : Outcome α × State} (h : Leaves host inv r)
    (hi : ∀ s, inv s → inv' s) : Leaves host inv' r := by
  obtain ⟨outcome, s⟩ := r
  cases outcome with
  | ok a => exact hi s h
  | error e => exact hi s h
  | panic message => exact h

/-- A step keeps a property of states, and asks for tasks of a kind. -/
def Walk.Keeps (host : Host) (asks : Task → State → Prop) (replies : State → Reply → Prop)
    (inv : State → Prop) (m : Walk α) : Prop :=
  ∀ s, inv s → (m s).Meets asks replies (Leaves host inv)

namespace Walk

variable {inv : State → Prop} {m : Walk α} {s : State}

/-! ### Steps one after the other -/

/-- A step runs, and the next one goes on with its value and its state. -/
theorem bind_run (m : Walk α) (f : α → Walk β) (s : State) :
    (m >>= f) s = (m s).bind fun
      | (.ok a, s) => f a s
      | (.error e, s) => .done (.error e, s)
      | (.panic message, s) => .done (.panic message, s) := rfl

/-- A step that reads goes on with what it has read, in the same state. -/
theorem read_bind (f : State → α) (k : α → Walk β) (s : State) : (read f >>= k) s = k (f s) s := rfl

/-- A step that changes the state goes on in the new one. -/
theorem modify_bind (f : State → State) (k : Unit → Walk β) (s : State) :
    (modify f >>= k) s = k () (f s) := rfl

/-- The contract of two steps from those of each: errors and panics of the first one stand. -/
theorem meets_bind {post : Outcome α × State → Prop} {post' : Outcome β × State → Prop}
    {f : α → Walk β} (h : (m s).Meets asks replies post)
    (ok : ∀ a u, post (.ok a, u) → (f a u).Meets asks replies post')
    (error : ∀ e u, post (.error e, u) → post' (.error e, u))
    (panic : ∀ message u, post (.panic message, u) → post' (.panic message, u)) :
    ((m >>= f) s).Meets asks replies post' := by
  rw [bind_run]
  apply h.bind
  rintro ⟨outcome, u⟩ hr
  cases outcome with
  | ok a => exact ok a u hr
  | error e => exact error e u hr
  | panic message => exact panic message u hr

/-- The contract of an attempt and of the step that goes on with its result. -/
theorem meets_attempt {post : Outcome α × State → Prop}
    {post' : Outcome β × State → Prop} {f : Except EvalError α → Walk β}
    (h : (m s).Meets asks replies post)
    (ok : ∀ a u, post (.ok a, u) → (f (.ok a) u).Meets asks replies post')
    (error : ∀ e u, post (.error e, u) → (f (.error e) u).Meets asks replies post')
    (panic : ∀ message u, post (.panic message, u) → post' (.panic message, u)) :
    ((m.attempt >>= f) s).Meets asks replies post' := by
  rw [bind_run, attempt, Run.bind_assoc]
  apply h.bind
  rintro ⟨outcome, u⟩ hr
  cases outcome with
  | ok a => exact ok a u hr
  | error e => exact error e u hr
  | panic message => exact panic message u hr

/-- A change after a step is made whether the step gives a value or fails. -/
theorem meets_after {mid : State → Prop} {f : State → State}
    (h : (m s).Meets asks replies (Leaves host mid)) (hf : ∀ u, mid u → inv (f u)) :
    ((m.after f) s).Meets asks replies (Leaves host inv) := by
  apply meets_attempt h
  · intro _ u hu
    exact hf u hu
  · intro _ u hu
    exact hf u hu
  · intro _ _ hu
    exact hu

/-- A change of the error does not matter for what is left. -/
theorem meets_mapError {f : State → EvalError → EvalError}
    (h : (m s).Meets asks replies (Leaves host inv)) :
    (m.mapError f s).Meets asks replies (Leaves host inv) := by
  apply h.bind
  rintro ⟨outcome, u⟩ hr
  cases outcome with
  | error e => exact hr
  | ok a => exact hr
  | panic message => exact hr

/-! ### What steps ask for -/

/-- What the first step asks for is asked for by both together. -/
theorem asks_bind {f : α → Walk β} {task : Task} {u : State} (h : (m s).Asks host task u) :
    ((m >>= f) s).Asks host task u := h.bind

/-- After a step that asks for nothing, a step asks for what the next one does. -/
theorem asks_bind_done {f : α → Walk β} {a : α} {v : State} {task : Task} {u : State}
    (hm : m s = .done (.ok a, v)) (h : (f a v).Asks host task u) :
    ((m >>= f) s).Asks host task u := by
  rw [bind_run, hm]
  exact h

/-! ### How steps end -/

variable {o : Outcome α} {u : State}

/-- A change after a step is made to the state in which the step ends. -/
theorem of_after_ends {f : State → State} (h : ((m.after f) s).Ends host (o, u))
    (ho : o.Returned) : ∃ v, (m s).Ends host (o, v) ∧ u = f v := by
  rw [after, bind_run, attempt, Run.bind_assoc] at h
  obtain ⟨⟨x, v⟩, hx, hr⟩ := h.of_bind
  cases x with
  | ok a =>
    cases hr
    exact ⟨v, hx, rfl⟩
  | error e =>
    cases hr
    exact ⟨v, hx, rfl⟩
  | panic message =>
    cases hr
    exact ho.elim

/-- Two steps end with the error of the first one, or as the second one does. -/
theorem of_bind_ends {f : α → Walk β} {o : Outcome β} (h : ((m >>= f) s).Ends host (o, u))
    (ho : o.Returned) :
    (∃ e, o = .error e ∧ (m s).Ends host (.error e, u)) ∨
      ∃ a v, (m s).Ends host (.ok a, v) ∧ (f a v).Ends host (o, u) := by
  rw [bind_run] at h
  obtain ⟨⟨x, v⟩, hx, hr⟩ := h.of_bind
  cases x with
  | ok a => exact .inr ⟨a, v, hx, hr⟩
  | error e =>
    cases hr
    exact .inl ⟨e, rfl, hx⟩
  | panic message =>
    cases hr
    exact ho.elim

/-- A change at a place leaves the changed state if it returns. -/
theorem of_changeAt_ends {length : State → Nat} {place : Nat} {f : State → State}
    {o : Outcome Unit} (h : (changeAt length place f s).Ends host (o, u)) (ho : o.Returned) :
    u = f s := by
  rw [changeAt] at h
  split at h
  · cases h
    rfl
  · cases h
    exact ho.elim

/-- A task that is performed has ended before. -/
theorem of_perform_ends {task : Task} {o : Outcome Unit}
    (h : (perform task s).Ends host (o, u)) : ∃ x, (start host task s).Ends host (x, u) := by
  rw [perform, bind_run] at h
  obtain ⟨⟨x, v⟩, hx, hr⟩ := h.of_bind
  cases hx with
  | ask hs hd =>
    cases hd
    cases x with
    | ok a | error e | panic message =>
      cases hr
      exact ⟨_, hs⟩

namespace Keeps

/-- A step may ask for less. -/
theorem mono (h : m.Keeps host asks replies inv) (ha : ∀ task s, asks task s → asks' task s) :
    m.Keeps host asks' replies inv := by
  intro s hs
  exact (h s hs).mono ha fun _ hr ↦ hr

/-- A step that only gives a value keeps every property. -/
theorem pure (a : α) : (Pure.pure a : Walk α).Keeps host asks replies inv := fun _ hs ↦ hs

/-- A step that only fails keeps every property. -/
theorem fail (e : EvalError) : (Walk.fail e : Walk α).Keeps host asks replies inv := fun _ hs ↦ hs

/-- A step that only gives a result keeps every property. -/
theorem ofExcept (x : Except EvalError α) : (Walk.ofExcept x).Keeps host asks replies inv := by
  cases x with
  | ok a => exact pure a
  | error e => exact fail e

/-- Two steps keep what each of them keeps. -/
theorem bind {f : α → Walk β} (hm : m.Keeps host asks replies inv)
    (hf : ∀ a, (f a).Keeps host asks replies inv) : (m >>= f).Keeps host asks replies inv := by
  intro s hs
  refine meets_bind (hm s hs) ?_ (fun _ _ hu ↦ hu) fun _ _ hu ↦ hu
  intro a u hu
  exact hf a u hu

/-- A result and the step that goes on with its value keep what that step keeps. -/
theorem ofExcept_bind {x : Except EvalError α} {k : α → Walk β}
    (h : ∀ a, x = .ok a → (k a).Keeps host asks replies inv) :
    (Walk.ofExcept x >>= k).Keeps host asks replies inv := by
  cases x with
  | ok a => exact h a rfl
  | error e => exact fail e

/-- What a step reads is what some state with the property holds. -/
theorem read_bind {f : State → α} {k : α → Walk β}
    (h : ∀ s, inv s → (k (f s)).Keeps host asks replies inv) :
    (Walk.read f >>= k).Keeps host asks replies inv :=
  fun s hs ↦ h s hs s hs

/-- A step that only reads keeps every property. -/
theorem read (f : State → α) : (Walk.read f).Keeps host asks replies inv := fun _ hs ↦ hs

/-- A change of the state keeps what holds of the new state too. -/
theorem modify {f : State → State} (h : ∀ s, inv s → inv (f s)) :
    (Walk.modify f).Keeps host asks replies inv :=
  fun s hs ↦ h s hs

/-- A place of a stack may be changed where the property says that it is there. -/
theorem changeAt {length : State → Nat} {place : Nat} {f : State → State}
    (hl : ∀ s, inv s → place < length s) (h : ∀ s, inv s → inv (f s)) :
    (Walk.changeAt length place f).Keeps host asks replies inv := by
  intro s hs
  simp only [Walk.changeAt, hl s hs, if_true]
  exact h s hs

/-- An attempt keeps what the step keeps. -/
theorem attempt (hm : m.Keeps host asks replies inv) : m.attempt.Keeps host asks replies inv := by
  intro s hs
  apply (hm s hs).bind
  rintro ⟨outcome, u⟩ hr
  cases outcome with
  | ok a => exact hr
  | error e => exact hr
  | panic message => exact hr

/-- A change after a step keeps what both keep. -/
theorem after {f : State → State} (hm : m.Keeps host asks replies inv)
    (hf : ∀ s, inv s → inv (f s)) : (m.after f).Keeps host asks replies inv :=
  fun s hs ↦ meets_after (hm s hs) hf

/-- A change of the error keeps what the step keeps. -/
theorem mapError {f : State → EvalError → EvalError} (hm : m.Keeps host asks replies inv) :
    (m.mapError f).Keeps host asks replies inv :=
  fun s hs ↦ meets_mapError (hm s hs)

/-- A step that uses resources keeps what does not depend on them. -/
theorem ended {f : Resources → Ended α}
    (h : ∀ s r, inv s → inv { s with resources := r })
    (hp : ∀ r message, (f r).1 = .panic message → host.MayPanic message) :
    (Walk.ended f).Keeps host asks replies inv := by
  intro s hs
  rw [Walk.ended]
  cases hr : f s.resources with
  | mk outcome r =>
    cases outcome with
    | ok a => exact h s r hs
    | error e => exact h s r hs
    | panic message => exact hp s.resources message (by rw [hr])

end Keeps

end Walk

end TextTemplate
