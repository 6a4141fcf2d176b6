import TextTemplate.Render.Node

/-!
# Evaluation

How runs end and what they ask for, apart from the budget of the loop that answers their requests.
A moment of a run is the stack of the tasks that are open at it: each was asked for by the one
below it and has not ended. A run that the loop brings to an end is one that ends here, and
(`Walk.run_iff`) conversely.
-/

set_option autoImplicit false

namespace TextTemplate

variable {α β : Type} {host : Host}

/-- A run ends with a result if the tasks that it asks for end with replies that lead it there. -/
inductive Run.Ends (host : Host) : {α : Type} → Run α → α → Prop where
  | done {α : Type} (a : α) : Ends host (.done a) a
  | ask {α : Type} {task : Task} {s : State} {next : Reply → Run α} {r : Reply} {a : α} :
      Ends host (Walk.start host task s) r → Ends host (next r) a →
        Ends host (.ask task s next) a

/-- A run asks for a task in a state, either first or after other tasks that ended. -/
inductive Run.Asks (host : Host) : {α : Type} → Run α → Task → State → Prop where
  | now {α : Type} {task : Task} {s : State} {next : Reply → Run α} :
      Asks host (.ask task s next) task s
  | later {α : Type} {task t : Task} {s u : State} {next : Reply → Run α} {r : Reply} :
      Run.Ends host (Walk.start host task s) r → Asks host (next r) t u →
        Asks host (.ask task s next) t u

/-- A task with the state in which it was asked for. -/
abbrev Request := Task × State

/-- The tasks that are open at a moment of the run of a task, innermost first. -/
inductive Moment (host : Host) (start : Request) : List Request → Prop where
  | start : Moment host start [start]
  | ask {task : Task} {s : State} {stack : List Request} {r : Request} :
      Moment host start (r :: stack) → (Walk.start host r.1 r.2).Asks host task s →
        Moment host start ((task, s) :: r :: stack)

namespace Moment

variable {start request parent : Request} {above stack : List Request}

/-- The innermost task was asked for by the one below it. -/
theorem asked (h : Moment host start (request :: parent :: stack)) :
    (Walk.start host parent.1 parent.2).Asks host request.1 request.2 := by
  cases h with
  | ask _ ha => exact ha

/-- What is open has been the innermost task before. -/
theorem suffix (h : Moment host start (above ++ stack)) (hs : stack ≠ []) :
    Moment host start stack := by
  induction above with
  | nil => exact h
  | cons request above ih =>
    apply ih
    rw [List.cons_append] at h
    generalize hl : above ++ stack = below at h ⊢
    cases h with
    | start => exact (hs (List.append_eq_nil_iff.mp hl).2).elim
    | ask hm _ => exact hm

/-- While a task runs, the one that has asked for it has been running. -/
theorem outer (h : Moment host start (request :: parent :: stack)) :
    Moment host start (parent :: stack) := by
  cases h with
  | ask hm _ => exact hm

end Moment

namespace Run

/-! ### Following a run -/

section

variable {x : Run α} {task t : Task} {s u : State} {next : Reply → Run α} {r : Reply} {a : α}

/-- A run asks for its first task. -/
theorem Asks.first (h : x = .ask task s next) : x.Asks host task s := h ▸ .now

/-- A run asks for what it goes on to ask for after its first task. -/
theorem Asks.after (h : x = .ask task s next) (hr : (Walk.start host task s).Ends host r)
    (ha : (next r).Asks host t u) : x.Asks host t u := h ▸ .later hr ha

/-- A run that is done ends with its value. -/
theorem Ends.value (h : x = .done a) : x.Ends host a := h ▸ .done a

/-- A run ends as it goes on to end after its first task. -/
theorem Ends.after (h : x = .ask task s next) (hr : (Walk.start host task s).Ends host r)
    (ha : (next r).Ends host a) : x.Ends host a := h ▸ .ask hr ha

end

/-- A run ends in one way only. -/
theorem Ends.unique {x : Run α} {a b : α} (ha : x.Ends host a) (hb : x.Ends host b) : a = b := by
  induction ha with
  | done a =>
    cases hb with
    | done => rfl
  | ask _ _ ihr iha =>
    cases hb with
    | ask hr hb =>
      cases ihr hr
      exact iha hb

/-- A continued run ends where its continuation ends. -/
theorem Ends.bind {x : Run α} {f : α → Run β} {a : α} {b : β} (hx : x.Ends host a)
    (hf : (f a).Ends host b) : (x.bind f).Ends host b := by
  induction hx with
  | done => exact hf
  | ask hr _ _ ih => exact .ask hr (ih hf)

/-- A continued run that ends does so by way of a result of its first part. -/
theorem Ends.of_bind {x : Run α} {f : α → Run β} {b : β} (h : (x.bind f).Ends host b) :
    ∃ a, x.Ends host a ∧ (f a).Ends host b := by
  induction x with
  | done a => exact ⟨a, .done a, h⟩
  | ask task s next ih =>
    cases h with
    | ask hr hb =>
      obtain ⟨a, hx, hf⟩ := ih _ hb
      exact ⟨a, .ask hr hx, hf⟩

/-- A continued run asks for what its first part asks for. -/
theorem Asks.bind {x : Run α} {f : α → Run β} {task : Task} {s : State}
    (h : x.Asks host task s) : (x.bind f).Asks host task s := by
  induction h with
  | now => exact .now
  | later hr _ ih => exact .later hr ih

/-- Nothing is added to a run by what is done at once. -/
theorem bind_done (x : Run α) : x.bind Run.done = x := by
  induction x with
  | done => rfl
  | ask task s next ih =>
    simp only [Run.bind]
    congr
    funext r
    exact ih r

/-- Runs are put together in whatever order. -/
theorem bind_assoc {γ : Type} (x : Run α) (f : α → Run β) (g : β → Run γ) :
    (x.bind f).bind g = x.bind fun a ↦ (f a).bind g := by
  induction x with
  | done => rfl
  | ask task s next ih =>
    simp only [Run.bind]
    congr
    funext r
    exact ih r

/-! ### The loop -/

/-- The replies of the waiting runs lead from a reply to the last one. -/
def Resumes (host : Host) : List (Reply → Run Reply) → Reply → Reply → Prop
  | [], r, last => r = last
  | next :: rest, r, last => ∃ r', (next r).Ends host r' ∧ Resumes host rest r' last

/-- What the loop brings to an end, ends. -/
theorem ends_of_loop {budget : Nat} {x : Run Reply} {waiting : List (Reply → Run Reply)}
    {last : Reply} (h : loop (Walk.start host) budget x waiting = some last) :
    ∃ r, x.Ends host r ∧ Resumes host waiting r last := by
  induction budget generalizing x waiting with
  | zero => simp [loop] at h
  | succ budget ih =>
    cases x with
    | done r =>
      cases waiting with
      | nil =>
        simp only [loop, Option.some.injEq] at h
        exact ⟨r, .done r, h⟩
      | cons next rest =>
        obtain ⟨r', hr, hw⟩ := @ih (next r) rest h
        exact ⟨r, .done r, r', hr, hw⟩
    | ask task s next =>
      obtain ⟨r, hr, r', hn, hw⟩ := @ih _ (next :: waiting) h
      exact ⟨r', .ask hr hn, hw⟩

/-- The loop gets past a run that ends in a number of steps that depends on the run alone. -/
theorem Ends.loop {x : Run α} {a : α} (h : x.Ends host a) (f : α → Run Reply) :
    ∃ steps, ∀ budget waiting,
      loop (Walk.start host) (budget + steps) (x.bind f) waiting =
        loop (Walk.start host) budget (f a) waiting := by
  induction h with
  | done a => exact ⟨0, fun _ _ ↦ rfl⟩
  | @ask _ task s next r a _ _ ihr iha =>
    obtain ⟨m, hm⟩ := ihr Run.done
    obtain ⟨n, hn⟩ := iha f
    refine ⟨n + 1 + m + 1, fun budget waiting ↦ ?_⟩
    have hm := hm (budget + n + 1) ((fun r ↦ (next r).bind f) :: waiting)
    rw [bind_done] at hm
    calc Run.loop (Walk.start host) (budget + (n + 1 + m + 1)) ((Run.ask task s next).bind f)
            waiting
        = Run.loop (Walk.start host) (budget + n + 1 + m) (Walk.start host task s)
            ((fun r ↦ (next r).bind f) :: waiting) := by
          rw [show budget + (n + 1 + m + 1) = (budget + n + 1 + m) + 1 by omega]
          rfl
      _ = Run.loop (Walk.start host) (budget + n + 1) (.done r)
            ((fun r ↦ (next r).bind f) :: waiting) := hm
      _ = Run.loop (Walk.start host) (budget + n) ((next r).bind f) waiting := rfl
      _ = Run.loop (Walk.start host) budget (f a) waiting := hn budget waiting

end Run

/-- The loop brings a walk to an end, given budget enough, just where the walk ends. -/
theorem Walk.run_iff {nodes : List Node} {dot : Value} {s : State} {r : Reply} :
    (∃ budget, Walk.run host budget nodes dot s = some r) ↔
      (Walk.start host (.walk nodes dot) s).Ends host r := by
  constructor
  · rintro ⟨budget, h⟩
    obtain ⟨r', hr, hw⟩ := Run.ends_of_loop h
    exact hw ▸ hr
  · intro h
    obtain ⟨steps, hs⟩ := h.loop Run.done
    refine ⟨1 + steps, ?_⟩
    have hs := hs 1 []
    rw [Run.bind_done] at hs
    exact hs

/-! ### Small renders -/

/-- A host without functions. -/
def Host.empty : Host where
  plain _ _ _ := .fail .needsRender
  stateful _ _ _ := .fail .needsRender
  build _ _ := .fail .needsRender

/-- An executor without templates and functions of its own. -/
def Executor.blank : Executor := .root (.empty "t") (.declared "t") 0

/-- A render without data at its start. -/
def State.blank : State := .initial .blank .invalid .unlimited (.initial .nil)

/-- A pipeline of commands, by the forms of their operands. -/
def Pipe.ofForms (commands : List (List OperandForm)) : Pipe :=
  .mk ⟨0, 0⟩ [] (commands.map fun forms ↦ .mk ⟨0, 0⟩ (forms.map (.mk ⟨0, 0⟩))) false

/-- A callback of the function that a pipeline ends with. -/
def Node.callback (commands : List (List OperandForm)) (body : List Node) : Node :=
  .block .callback ⟨0, 0⟩ (.ofForms commands) body

end TextTemplate
