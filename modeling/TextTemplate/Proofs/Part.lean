import TextTemplate.Proofs.Level
import TextTemplate.Proofs.Performing

/-!
# Parts of steps

A step takes steps one after the other, with some change after them or of their errors; it asks for
tasks, and it does what the programs of functions do. All these are its parts. An error that may not
be replaced leaves a step from whichever part it comes (`Parts.relays`).
-/

set_option autoImplicit false

namespace TextTemplate

variable {host : Host}

/-- What a step consists of. -/
inductive Part (host : Host) : Act → Act → Prop where
  /-- Of steps one after the other, the first one. -/
  | first {α β : Type} {m : Walk α} {f : α → Walk β} {s : State} : Part host ⟨m >>= f, s⟩ ⟨m, s⟩
  /-- Those that come after a step, once it has given a value. -/
  | next {α β : Type} {m : Walk α} {f : α → Walk β} {a : α} {s u : State} :
      (m s).Ends host (.ok a, u) → Part host ⟨m >>= f, s⟩ ⟨f a, u⟩
  /-- A step with a change after it. -/
  | after {α : Type} {m : Walk α} {f : State → State} {s : State} :
      Part host ⟨m.after f, s⟩ ⟨m, s⟩
  /-- A step whose errors are located. -/
  | located {α : Type} {m : Walk α} {s : State} : Part host ⟨m.mapError State.locate, s⟩ ⟨m, s⟩
  /-- A step whose errors leave a template call. -/
  | framed {α : Type} {m : Walk α} {name : String} {s : State} :
      Part host ⟨m.mapError fun s e ↦ e.withFrame name (some s.step.text), s⟩ ⟨m, s⟩
  /-- A step whose output is collected. -/
  | captured {m : Walk Unit} {s : State} :
      Part host ⟨Walk.capture m, s⟩ ⟨m, s.pushSink (.buffer .empty)⟩
  /-- The body of a wrap. -/
  | wrapped {strip : Bool} {body : List Node} {before after otherwise : Option (List Node)}
      {dot : Value} {s : State} :
      Part host ⟨Walk.wrap strip body before after otherwise dot, s⟩
        ⟨Walk.nodes body dot, s.pushSink (.wrap (.fresh strip before dot))⟩
  /-- The task that is asked for. -/
  | asked {task : Task} {s : State} : Part host ⟨Walk.ask task, s⟩ ⟨Walk.start host task, s⟩
  /-- The render of another template. -/
  | rendered {name : String} {data : Value} {template : Template} {tree : Tree} {s : State} :
      s.callee name = .ok template → template.tree = some tree →
        Part host ⟨Walk.renderNested name data, s⟩
          ⟨Walk.start host (.render tree.root (Walk.nestedState s template data).data),
            Walk.nestedState s template data⟩
  /-- What the program of a function does that is called by a name. -/
  | called {f : Function} {name : String} {args : List Value} {s : State} {act : Act} :
      f.checkArity name args.length = .ok () → (f.program host args).Performs host s act →
        Part host ⟨Walk.callFunction host f name args, s⟩ act
  /-- What the program of a function does that is called as a value. -/
  | performed {f : Function} {args : List Value} {s : State} {act : Act} :
      (f.program host args).Performs host s act →
        Part host ⟨Walk.program host (f.program host args), s⟩ act

/-- What a step consists of, with all that this consists of. -/
abbrev Parts (host : Host) : Act → Act → Prop := Relation.ReflTransGen (Part host)

/-! ### Parts that fail -/

namespace Walk

private theorem capture_relays {m : Walk Unit} {s : State} :
    Relays host ⟨capture m, s⟩ ⟨m, s.pushSink (.buffer .empty)⟩ :=
  (Relays.next (.done _)).trans ((Relays.next (.done _)).trans (.attempted fun _ _ ↦ ⟨_, rfl⟩))

private theorem wrap_relays {strip : Bool} {body : List Node}
    {before after otherwise : Option (List Node)} {dot : Value} {s : State} :
    Relays host ⟨wrap strip body before after otherwise dot, s⟩
      ⟨nodes body dot, s.pushSink (.wrap (.fresh strip before dot))⟩ :=
  (Relays.next (.done _)).trans (Relays.after.trans ((Relays.next (.done _)).trans
    ((Relays.next (.done _)).trans (.attempted fun _ _ ↦ ⟨_, rfl⟩))))

/-- An error of another render leaves the step that rendered it with a frame. -/
theorem renderNested_relays {name : String} {data : Value} {template : Template} {tree : Tree}
    {s : State} (hc : s.callee name = .ok template) (ht : template.tree = some tree) :
    Relays host ⟨renderNested name data, s⟩
      ⟨start host (.render tree.root (nestedState s template data).data),
        nestedState s template data⟩ := by
  rintro e - ⟨u, hu⟩
  refine ⟨_, .withFrame e (s.template.name ++ "/" ++ name) none,
    { s with resources := u.resources }, ?_⟩
  simp only [renderNested, hc, ht]
  exact .ask hu (.done _)

/-- A call fails as the program of its function does, if the error may not be replaced. -/
theorem callFunction_relays {f : Function} {name : String} {args : List Value} {s : State}
    (ha : f.checkArity name args.length = .ok ()) :
    Relays host ⟨callFunction host f name args, s⟩ ⟨program host (f.program host args), s⟩ := by
  refine (Relays.ofExcept ha).trans ((Relays.next (.done _)).trans ?_)
  rintro e he ⟨u, hu⟩
  have hafter := after_ends (f := fun v ↦ { v with place := s.place }) hu trivial
  refine ⟨e, .refl e, { u with place := s.place }, bind_ends (attempt_ends_error hafter) ?_⟩
  simp only [he, Bool.false_eq_true, if_false]
  exact .done _

end Walk

/-- A step relays its parts, if the functions of the host pass on errors. -/
theorem Part.relays (hp : host.PassesOn) {whole part : Act} (h : Part host whole part) :
    Relays host whole part := by
  cases h with
  | first => exact .first
  | next hm => exact .next hm
  | after => exact .after
  | located => exact .mapError EvalError.PassesTo.locate
  | framed => exact .mapError fun _ e ↦ .withFrame e _ _
  | captured => exact Walk.capture_relays
  | wrapped => exact Walk.wrap_relays
  | asked => exact .ask
  | rendered hc ht => exact Walk.renderNested_relays hc ht
  | called ha hf =>
    exact (Walk.callFunction_relays ha).trans (hf.relays (Function.program_passesOn hp ..))
  | performed hf => exact hf.relays (Function.program_passesOn hp ..)

/-- An act relays the errors of its parts. -/
theorem Parts.relays (hp : host.PassesOn) {whole part : Act} (h : Parts host whole part) :
    Relays host whole part := by
  induction h with
  | refl => exact .refl _
  | tail _ hpart ih => exact ih.trans (hpart.relays hp)

end TextTemplate
