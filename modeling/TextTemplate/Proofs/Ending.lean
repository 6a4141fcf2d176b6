import TextTemplate.Execute
import TextTemplate.Proofs.Contract

/-!
# How steps end

The end of a step from the ends of its parts: of steps one after the other, of a step with a change
after it, and of requests; and the end of a render from that of the walk of its template.
-/

set_option autoImplicit false

namespace TextTemplate

variable {α β : Type} {host : Host}

/-- A continued run asks for what its first part asks for, and for what the continuation of a result
of that part asks for. -/
theorem Run.Asks.of_bind {x : Run α} {f : α → Run β} {task : Task} {u : State}
    (h : (x.bind f).Asks host task u) :
    x.Asks host task u ∨ ∃ a, x.Ends host a ∧ (f a).Asks host task u := by
  induction x with
  | done a => exact .inr ⟨a, .done a, h⟩
  | ask t s next ih =>
    cases h with
    | now => exact .inl .now
    | later hr ha =>
      obtain hn | ⟨a, hx, hf⟩ := ih _ ha
      · exact .inl (.later hr hn)
      · exact .inr ⟨a, .ask hr hx, hf⟩

/-- A continued run asks for what the continuation of its first part's result asks for. -/
theorem Run.Ends.bind_asks {x : Run α} {f : α → Run β} {a : α} {task : Task} {u : State}
    (hx : x.Ends host a) (h : (f a).Asks host task u) : (x.bind f).Asks host task u := by
  induction hx with
  | done => exact h
  | ask hr _ _ ih => exact .later hr (ih h)

namespace Walk

variable {m : Walk α} {s u : State}

/-- Two steps that end one after the other end together. -/
theorem bind_ends {f : α → Walk β} {a : α} {r : Outcome β × State}
    (hm : (m s).Ends host (.ok a, u)) (hf : (f a u).Ends host r) : ((m >>= f) s).Ends host r := by
  rw [bind_run]
  exact hm.bind hf

/-- After a step that gives a value, steps end as the next one does. -/
theorem bind_ends_iff {f : α → Walk β} {a : α} {r : Outcome β × State}
    (hm : (m s).Ends host (.ok a, u)) : ((m >>= f) s).Ends host r ↔ (f a u).Ends host r := by
  constructor
  · intro h
    rw [bind_run] at h
    obtain ⟨_, hx, hr⟩ := h.of_bind
    cases hm.unique hx
    exact hr
  · exact bind_ends hm

/-- What comes after a step that fails is not run. -/
theorem bind_ends_error {f : α → Walk β} {e : EvalError} (hm : (m s).Ends host (.error e, u)) :
    ((m >>= f) s).Ends host (.error e, u) := by
  rw [bind_run]
  exact hm.bind (.done _)

/-- Two steps that end with a value have ended one after the other. -/
theorem of_bind_ends_ok {f : α → Walk β} {b : β} (h : ((m >>= f) s).Ends host (.ok b, u)) :
    ∃ a v, (m s).Ends host (.ok a, v) ∧ (f a v).Ends host (.ok b, u) := by
  obtain ⟨_, he, _⟩ | h := of_bind_ends h trivial
  · cases he
  · exact h

/-- An attempt ends with the value of the step. -/
theorem attempt_ends {a : α} (hm : (m s).Ends host (.ok a, u)) :
    (m.attempt s).Ends host (.ok (.ok a), u) :=
  hm.bind (.done _)

/-- An attempt ends with the error of the step as its value. -/
theorem attempt_ends_error {e : EvalError} (hm : (m s).Ends host (.error e, u)) :
    (m.attempt s).Ends host (.ok (.error e), u) :=
  hm.bind (.done _)

/-- A step that returns is followed by the change after it. -/
theorem after_ends {f : State → State} {o : Outcome α} (hm : (m s).Ends host (o, u))
    (ho : o.Returned) : ((m.after f) s).Ends host (o, f u) := by
  cases o with
  | ok a => exact bind_ends (attempt_ends hm) (.done _)
  | error e => exact bind_ends (attempt_ends_error hm) (.done _)
  | panic message => exact ho.elim

/-- A value is left as it is where errors are changed. -/
theorem mapError_ends {f : State → EvalError → EvalError} {a : α}
    (hm : (m s).Ends host (.ok a, u)) : (m.mapError f s).Ends host (.ok a, u) :=
  hm.bind (.done _)

/-- An error is changed where errors are. -/
theorem mapError_ends_error {f : State → EvalError → EvalError} {e : EvalError}
    (hm : (m s).Ends host (.error e, u)) : (m.mapError f s).Ends host (.error (f u e), u) :=
  hm.bind (.done _)

/-- Asking for a task ends as the task does. -/
theorem ask_ends {task : Task} {r : Reply} (h : (start host task s).Ends host r) :
    (ask task s).Ends host r :=
  .ask h (.done r)

/-- Performing a task ends when the task has given a value. -/
theorem perform_ends {task : Task} {v : Value} (h : (start host task s).Ends host (.ok v, u)) :
    (perform task s).Ends host (.ok (), u) :=
  bind_ends (ask_ends h) (.done _)

/-- Performing a task fails with the error of the task. -/
theorem perform_ends_error {task : Task} {e : EvalError}
    (h : (start host task s).Ends host (.error e, u)) :
    (perform task s).Ends host (.error e, u) :=
  bind_ends_error (ask_ends h)

/-- A task that is performed with an error has failed with it. -/
theorem of_perform_ends_error {task : Task} {e : EvalError}
    (h : (perform task s).Ends host (.error e, u)) :
    (start host task s).Ends host (.error e, u) := by
  obtain ⟨_, he, h⟩ | ⟨_, _, _, h⟩ := of_bind_ends h trivial
  · cases he
    cases h with
    | ask hr hd =>
      cases hd
      exact hr
  · cases h

/-- A step whose error is looked at gives what the step gives. -/
theorem attempt_ends_ofExcept {r : Except EvalError α} (hm : (m s).Ends host (.ofExcept r, u)) :
    (m.attempt s).Ends host (.ok r, u) := by
  cases r with
  | ok a => exact attempt_ends hm
  | error e => exact attempt_ends_error hm

/-- What comes after a step whose error is looked at. -/
theorem of_attempt_bind_ends {k : Except EvalError α → Walk β} {o : Outcome β}
    (h : ((m.attempt >>= k) s).Ends host (o, u)) (ho : o.Returned) :
    ∃ r v, (m s).Ends host (.ofExcept r, v) ∧ (k r v).Ends host (o, u) := by
  rw [bind_run, attempt, Run.bind_assoc] at h
  obtain ⟨⟨x, v⟩, hx, hk⟩ := h.of_bind
  cases x with
  | ok a => exact ⟨.ok a, v, hx, hk⟩
  | error e => exact ⟨.error e, v, hx, hk⟩
  | panic message =>
    cases hk
    exact ho.elim

/-- What a step asks for is asked for by an attempt of it. -/
theorem asks_attempt_bind {k : Except EvalError α → Walk β} {task : Task}
    (h : (m s).Asks host task u) : ((m.attempt >>= k) s).Asks host task u := by
  rw [bind_run, attempt, Run.bind_assoc]
  exact h.bind

/-- A step with a change of its errors ends where the step does. -/
theorem of_mapError_ends {f : State → EvalError → EvalError} {o : Outcome α}
    (h : (m.mapError f s).Ends host (o, u)) :
    ∃ o', (m s).Ends host (o', u) ∧ (o.Returned → o'.Returned) := by
  obtain ⟨⟨x, v⟩, hx, hr⟩ := Run.Ends.of_bind h
  cases x with
  | ok a | error e | panic message =>
    cases hr
    exact ⟨_, hx, id⟩

/-- After a step that gives a value, a step asks for what the next one does. -/
theorem asks_bind_ends {f : α → Walk β} {a : α} {v : State} {task : Task}
    (hm : (m s).Ends host (.ok a, v)) (h : (f a v).Asks host task u) :
    ((m >>= f) s).Asks host task u := by
  rw [bind_run]
  exact hm.bind_asks h

/-- Two steps ask for what the first one asks for, or the second one after it. -/
theorem of_asks_bind {f : α → Walk β} {task : Task} (h : ((m >>= f) s).Asks host task u) :
    (m s).Asks host task u ∨
      ∃ a v, (m s).Ends host (.ok a, v) ∧ (f a v).Asks host task u := by
  rw [bind_run] at h
  obtain hm | ⟨⟨x, v⟩, hx, hf⟩ := h.of_bind
  · exact .inl hm
  · cases x with
    | ok a => exact .inr ⟨a, v, hx, hf⟩
    | error e | panic message => cases hf

/-- A change after a step asks for nothing more. -/
theorem of_asks_after {f : State → State} {task : Task} (h : ((m.after f) s).Asks host task u) :
    (m s).Asks host task u := by
  rw [after, bind_run, attempt, Run.bind_assoc] at h
  obtain hm | ⟨⟨x, v⟩, -, hf⟩ := h.of_bind
  · exact hm
  · cases x with
    | ok a | error e | panic message => cases hf

/-- A change of the error asks for nothing more. -/
theorem of_asks_mapError {f : State → EvalError → EvalError} {task : Task}
    (h : (m.mapError f s).Asks host task u) : (m s).Asks host task u := by
  obtain hm | ⟨⟨x, v⟩, -, hf⟩ := Run.Asks.of_bind h
  · exact hm
  · cases x with
    | ok a | error e | panic message => cases hf

/-- Performing a task asks for that task alone. -/
theorem asks_perform_iff {task t : Task} :
    (perform task s).Asks host t u ↔ t = task ∧ u = s := by
  constructor
  · intro h
    obtain hm | ⟨a, v, -, hf⟩ := of_asks_bind h
    · cases hm with
      | now => exact ⟨rfl, rfl⟩
      | later _ hf => cases hf
    · cases hf
  · rintro ⟨rfl, rfl⟩
    exact .now

end Walk

namespace Executor

variable {e : Executor} {data : Value} {w : Writer} {r : Resources} {budget budget' : Nat}

/-- What a render gives does not depend on the budget. -/
theorem render_unique {x y : Outcome Unit × Writer × Resources}
    (hx : e.render host budget data w r = some x) (hy : e.render host budget' data w r = some y) :
    x = y := by
  rw [render] at hx hy
  cases hraw : e.raw with
  | some raw =>
    rw [hraw] at hx hy
    exact Option.some.inj (hx.symm.trans hy)
  | none =>
    cases htree : e.template.tree with
    | none =>
      simp only [hraw, htree] at hx hy
      exact Option.some.inj (hx.symm.trans hy)
    | some tree =>
      simp only [hraw, htree, Option.map_eq_some_iff] at hx hy
      obtain ⟨reply, hrun, rfl⟩ := hx
      obtain ⟨reply', hrun', rfl⟩ := hy
      rw [(Walk.run_iff.mp ⟨budget, hrun⟩).unique (Walk.run_iff.mp ⟨budget', hrun'⟩)]

/-- A render has one result at most, whatever the budget. -/
theorem finish_unique {x y : Rendered} (hx : e.finish host budget data w r = some x)
    (hy : e.finish host budget' data w r = some y) : x = y := by
  rw [finish, Option.map_eq_some_iff] at hx hy
  obtain ⟨_, hrender, rfl⟩ := hx
  obtain ⟨_, hrender', rfl⟩ := hy
  rw [render_unique hrender hrender']

/-- A render ends, given budget enough, where the walk of its template does. -/
theorem exists_render_eq {tree : Tree} {reply : Reply} (he : e.raw = none)
    (ht : e.template.tree = some tree)
    (h : (Walk.start host (.walk tree.root data) (.initial e data w r)).Ends host reply) :
    ∃ budget, e.render host budget data w r = some (e.settle reply) := by
  obtain ⟨budget, hb⟩ := Walk.run_iff.mpr h
  refine ⟨budget, ?_⟩
  simp only [render, he, ht, hb, Option.map_some]

end Executor

end TextTemplate
