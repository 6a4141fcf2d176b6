import TextTemplate.Proofs.Ending

/-!
# Transcripts

What a run has asked for so far, in order, with the replies. `Run.Continues` tells where a run
stands after a transcript: it leads to one place only, so that what a run asks for, how often and in
which order can be read off.
-/

set_option autoImplicit false

namespace TextTemplate

variable {α β : Type} {host : Host}

/-- A task that was asked for in a state, and the reply to it. -/
structure Exchange where
  task : Task
  state : State
  reply : Reply

/-- After these exchanges, and no others, a run goes on as another one. -/
inductive Run.Continues (host : Host) : {α : Type} → Run α → List Exchange → Run α → Prop where
  | here {α : Type} (x : Run α) : Continues host x [] x
  | after {α : Type} {task : Task} {s : State} {next : Reply → Run α} {r : Reply}
      {log : List Exchange} {y : Run α} :
      Run.Ends host (Walk.start host task s) r → Continues host (next r) log y →
        Continues host (.ask task s next) (⟨task, s, r⟩ :: log) y

namespace Run

section

variable {x y z : Run α} {log more : List Exchange} {task : Task} {u : State} {a : α}

/-- A run goes on from where it has come to. -/
theorem Continues.trans (h : x.Continues host log y) (k : y.Continues host more z) :
    x.Continues host (log ++ more) z := by
  induction h with
  | here => exact k
  | after hr _ ih => exact .after hr (ih k)

/-- A run stands at one place after a transcript. -/
theorem Continues.unique (h : x.Continues host log y) (k : x.Continues host log z) : y = z := by
  induction h with
  | here =>
    cases k
    rfl
  | after _ _ ih =>
    cases k with
    | after _ k => exact ih k

private theorem Continues.of_append (h : x.Continues host (log ++ more) z) :
    ∃ y, x.Continues host log y ∧ y.Continues host more z := by
  induction log generalizing x with
  | nil => exact ⟨x, .here x, h⟩
  | cons exchange log ih =>
    cases h with
    | after hr h =>
      obtain ⟨y, hy, hz⟩ := ih h
      exact ⟨y, .after hr hy, hz⟩

/-- What comes after a transcript that begins with one that leads to a place is what comes after
that place. -/
theorem Continues.rest (h : x.Continues host log y) (k : x.Continues host (log ++ more) z) :
    y.Continues host more z := by
  obtain ⟨y', hy, hz⟩ := k.of_append
  exact h.unique hy ▸ hz

/-- A run ends with a result if a transcript leads to it. -/
theorem ends_iff_continues : x.Ends host a ↔ ∃ log, x.Continues host log (.done a) := by
  constructor
  · intro h
    induction h with
    | done a => exact ⟨[], .here _⟩
    | ask hr _ _ ih =>
      obtain ⟨log, hlog⟩ := ih
      exact ⟨_, .after hr hlog⟩
  · rintro ⟨log, h⟩
    generalize hy : Run.done a = y at h
    induction h with
    | here =>
      subst hy
      exact .done a
    | after hr _ ih => exact .ask hr (ih hy)

/-- A run asks for what it asks for where it has come to. -/
theorem Continues.asks (h : x.Continues host log y) (k : y.Asks host task u) :
    x.Asks host task u := by
  induction h with
  | here => exact k
  | after hr _ ih => exact .later hr (ih k)

/-- A run that is done has no further task. -/
theorem not_continues_ask {next : Reply → Run α} :
    ¬ (Run.done a).Continues host log (.ask task u next) := by
  intro h
  cases h

end

section

variable {x y : Run α} {log : List Exchange} {f : α → Run β}

/-- What comes after a run does not matter for where it comes to. -/
theorem Continues.bind (h : x.Continues host log y) :
    (x.bind f).Continues host log (y.bind f) := by
  induction h with
  | here => exact .here _
  | after hr _ ih => exact .after hr ih

/-- A continued run that asks for something does so in its first part or after it. -/
theorem Continues.of_bind_ask {task : Task} {u : State} {next : Reply → Run β}
    (h : (x.bind f).Continues host log (.ask task u next)) :
    (∃ next, x.Continues host log (.ask task u next)) ∨
      ∃ before after a, log = before ++ after ∧ x.Continues host before (.done a) ∧
        (f a).Continues host after (.ask task u next) := by
  induction x generalizing log with
  | done a => exact .inr ⟨[], log, a, rfl, .here _, h⟩
  | ask t s k ih =>
    cases h with
    | here => exact .inl ⟨k, .here _⟩
    | after hr h =>
      obtain ⟨next, hn⟩ | ⟨before, after, a, rfl, hb, ha⟩ := ih _ h
      · exact .inl ⟨next, .after hr hn⟩
      · exact .inr ⟨_ :: before, after, a, rfl, .after hr hb, ha⟩

end

end Run

end TextTemplate
