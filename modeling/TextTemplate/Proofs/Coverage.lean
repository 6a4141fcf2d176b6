import TextTemplate.Proofs.Anatomy
import TextTemplate.Proofs.Part

/-!
# Whatever is asked for is a part

Every task that a step asks for is one of its parts (`Walk.Covers`), for all that evaluation and
walks are made of and for each program. So at every moment of a render, the tasks that run are parts
of the walk of the template (`Moment.parts`).
-/

set_option autoImplicit false

namespace TextTemplate

variable {α β : Type} {host : Host}

/-- A step has among its parts every task that it asks for. -/
structure Walk.Covers (host : Host) (m : Walk α) : Prop where
  parts : ∀ {s u : State} {task : Task},
    (m s).Asks host task u → Parts host ⟨m, s⟩ ⟨Walk.start host task, u⟩

namespace Walk

variable {m : Walk α} {s u : State} {task : Task}

/-- An attempt asks for what the step asks for. -/
theorem of_asks_attempt (h : (m.attempt s).Asks host task u) : (m s).Asks host task u := by
  obtain hm | ⟨⟨x, v⟩, -, hf⟩ := Run.Asks.of_bind h
  · exact hm
  · cases x with
    | ok a | error e | panic message => cases hf

/-- What a step asks for that looks at the error of another one and then asks for nothing more. -/
theorem of_asks_attempt_bind {k : Except EvalError α → Walk β}
    (hk : ∀ e u, ∃ r, k (.error e) u = .done r)
    (h : ((m.attempt >>= k) s).Asks host task u) :
    (m s).Asks host task u ∨
      ∃ a v, (m s).Ends host (.ok a, v) ∧ (k (.ok a) v).Asks host task u := by
  obtain hm | ⟨r, v, hr, hf⟩ := of_asks_bind h
  · exact .inl (of_asks_attempt hm)
  · cases r with
    | error e =>
      obtain ⟨w, hw⟩ := hk e v
      rw [hw] at hf
      cases hf
    | ok a =>
      obtain ⟨⟨x, w⟩, hx, hd⟩ := Run.Ends.of_bind hr
      cases x with
      | ok b =>
        cases hd
        exact .inr ⟨a, v, hx, hf⟩
      | error e | panic message => cases hd

namespace Covers

/-- A step that asks for nothing. -/
theorem quiet (h : ∀ s, ∃ r, m s = .done r) : m.Covers host := by
  refine ⟨fun {s u task} ha ↦ ?_⟩
  obtain ⟨r, hr⟩ := h s
  rw [hr] at ha
  cases ha

private theorem pure (a : α) : (Pure.pure a : Walk α).Covers host := quiet fun _ ↦ ⟨_, rfl⟩

private theorem fail (e : EvalError) : (Walk.fail e : Walk α).Covers host := quiet fun _ ↦ ⟨_, rfl⟩

private theorem ofExcept (x : Except EvalError α) : (Walk.ofExcept x).Covers host := by
  cases x with
  | ok a => exact pure a
  | error e => exact fail e

private theorem read (f : State → α) : (Walk.read f).Covers host := quiet fun _ ↦ ⟨_, rfl⟩

private theorem modify (f : State → State) : (Walk.modify f).Covers host := quiet fun _ ↦ ⟨_, rfl⟩

private theorem setPlace (span : Span) (subject : Subject) :
    (Walk.setPlace span subject).Covers host :=
  modify _

private theorem changeAt (length : State → Nat) (place : Nat) (f : State → State) :
    (Walk.changeAt length place f).Covers host := by
  refine quiet fun s ↦ ?_
  rw [Walk.changeAt]
  split
  · exact ⟨_, rfl⟩
  · exact ⟨_, rfl⟩

/-- A step that uses resources alone. -/
theorem ended (f : Resources → Ended α) : (Walk.ended f).Covers host := quiet fun _ ↦ ⟨_, rfl⟩

private theorem plain (p : Plain α) : (Walk.plain host p).Covers host := ended _

private theorem hold (v : Value) : (Walk.hold v).Covers host := ended _

private theorem newObject (o : Object) : (Walk.newObject o).Covers host := ended _

private theorem receive (channel : Nat) : (Walk.receive channel).Covers host := ended _

private theorem bind {f : α → Walk β} (hm : m.Covers host) (hf : ∀ a, (f a).Covers host) :
    (m >>= f).Covers host := by
  refine ⟨fun {s u task} ha ↦ ?_⟩
  obtain h | ⟨a, v, hv, h⟩ := of_asks_bind ha
  · exact .head .first (hm.parts h)
  · exact .head (.next hv) ((hf a).parts h)

private theorem read_bind {f : State → α} {k : α → Walk β} (h : ∀ a, (k a).Covers host) :
    (Walk.read f >>= k).Covers host :=
  bind (read f) h

private theorem after {f : State → State} (hm : m.Covers host) : (m.after f).Covers host :=
  ⟨fun ha ↦ .head .after (hm.parts (of_asks_after ha))⟩

private theorem inScope (hm : m.Covers host) :
    (Walk.inScope m).Covers host :=
  read_bind fun _ ↦ hm.after

private theorem located (hm : m.Covers host) : (m.mapError State.locate).Covers host :=
  ⟨fun ha ↦ .head .located (hm.parts (of_asks_mapError ha))⟩

private theorem framed {name : String} (hm : m.Covers host) :
    (m.mapError fun s e ↦ e.withFrame name (some s.step.text)).Covers host :=
  ⟨fun ha ↦ .head .framed (hm.parts (of_asks_mapError ha))⟩

private theorem ask (task : Task) : (Walk.ask task).Covers host := by
  refine ⟨fun {s u t} ha ↦ ?_⟩
  cases ha with
  | now => exact .single .asked
  | later _ h => cases h

private theorem perform (task : Task) : (Walk.perform task).Covers host :=
  bind (ask task) fun _ ↦ pure ()

private theorem optional (nodes : Option (List Node)) (dot : Value) :
    (Walk.optional nodes dot).Covers host := by
  cases nodes with
  | none => exact pure ()
  | some nodes => exact perform _

private theorem capture {m : Walk Unit} (hm : m.Covers host) : (Walk.capture m).Covers host := by
  refine ⟨fun {s u task} ha ↦ ?_⟩
  obtain h | ⟨a, v, -, h⟩ := of_asks_attempt_bind (fun _ _ ↦ ⟨_, rfl⟩) ha
  · exact .head .captured (hm.parts h)
  · cases h

end Covers

/-! ### Output -/

private theorem writeLevel_covers (level : Nat) (bytes : ByteArray) :
    (writeLevel level bytes).Covers host := by
  induction level generalizing bytes with
  | zero =>
    refine .quiet fun s ↦ ?_
    rw [writeLevel, writeBottom]
    split
    · exact ⟨_, rfl⟩
    · exact ⟨_, rfl⟩
  | succ level ih =>
    have hsink : (sinkAt level).Covers host := by
      refine .quiet fun s ↦ ?_
      rw [sinkAt]
      split
      · exact ⟨_, rfl⟩
      · exact ⟨_, rfl⟩
    refine hsink.bind fun sink ↦ ?_
    split
    · exact .modify _
    · split
      · exact ih bytes
      · refine .bind (.modify _) fun _ ↦ ?_
        split
        · exact .pure ()
        · split
          · exact .bind (.read_bind fun _ ↦ .bind (.modify _) fun _ ↦
              .after (.inScope (.perform _))) fun _ ↦ ih _
          · exact .bind (.pure ()) fun _ ↦ ih _

private theorem write_covers (bytes : ByteArray) : (write bytes).Covers host := by
  rw [write]
  split
  · exact .pure ()
  · exact .read_bind fun level ↦ writeLevel_covers level bytes

private theorem runBlock_covers (handle : Nat) (dot : Value) (args : List Value) (captured : Bool) :
    (runBlock handle dot args captured).Covers host := by
  rw [runBlock]
  split
  · exact .capture (.perform _)
  · exact .bind (.perform _) fun _ ↦ .pure _

private theorem renderNested_covers (name : String) (data : Value) :
    (renderNested name data).Covers host := by
  refine ⟨fun {s u task} ha ↦ ?_⟩
  rw [renderNested] at ha
  split at ha
  · cases ha
  · next template hc =>
    dsimp only at ha
    split at ha
    · cases ha
    · next tree ht =>
      cases ha with
      | now => exact .single (.rendered hc ht)
      | later _ h =>
        dsimp only at h
        split at h
        · cases h
        · cases h
        · cases h

end Walk

/-! ### Programs -/

namespace Program

private theorem begin_covers {p : Program α} {b : Beginning α} (h : p.begin? host = some b) :
    b.walk.Covers host := by
  cases p with
  | finish => cases h
  | run p =>
    cases h
    exact .plain p
  | view =>
    cases h
    exact .read _
  | newObject o =>
    cases h
    exact .newObject o
  | receive channel =>
    cases h
    exact .receive channel
  | updateStore =>
    cases h
    exact .modify _
  | write text =>
    cases h
    exact Walk.write_covers _
  | callValue =>
    cases h
    exact .ask _
  | runBlock =>
    cases h
    exact Walk.runBlock_covers ..
  | render =>
    cases h
    exact Walk.renderNested_covers ..
  | yield =>
    cases h
    exact .bind (Walk.renderNested_covers ..) Walk.write_covers

/-- To prove something of all programs, it may be assumed of what comes after the beginning. -/
theorem induction (host : Host) {motive : Program α → Prop}
    (h : ∀ p, (∀ b, p.begin? host = some b → ∀ r, motive (b.next r)) → motive p)
    (p : Program α) : motive p := by
  have ended (p : Plain α) : motive (.finish p) := h _ fun b hb ↦ nomatch hb
  have passing {β : Type} {next : β → Program α} (ih : ∀ b, motive (next b)) (r) :
      motive (orFail next r) := by
    cases r with
    | ok b => exact ih b
    | error e => exact ended _
  apply h
  induction p with
  | finish p =>
    intro b hb
    cases hb
  | run _ _ ih | write _ _ ih | callValue _ _ _ ih | runBlock _ _ _ _ _ ih | yield _ _ _ ih =>
    intro b hb
    cases hb
    exact fun r ↦ h _ (ih r)
  | view _ ih | newObject _ _ ih | receive _ _ ih =>
    intro b hb
    cases hb
    exact passing fun b ↦ h _ (ih b)
  | updateStore _ _ ih =>
    intro b hb
    cases hb
    exact passing fun _ ↦ h _ ih
  | render _ _ _ ih =>
    intro b hb
    cases hb
    exact fun r ↦ h _ (ih _)

/-- What a program asks for is a part of something that it does. -/
theorem exists_performs {p : Program α} {s u : State} {task : Task}
    (h : (Walk.program host p s).Asks host task u) :
    ∃ act, p.Performs host s act ∧ Parts host act ⟨Walk.start host task, u⟩ := by
  revert s
  apply Program.induction host _ p
  intro p ih s h
  cases hb : p.begin? host with
  | none =>
    cases p with
    | finish p => exact ⟨_, .finish, (Walk.Covers.plain p).parts h⟩
    | _ => cases hb
  | some b =>
    rw [program_run hb] at h
    obtain h | ⟨r, v, hr, h⟩ := Walk.of_asks_bind h
    · exact ⟨_, .first hb, (begin_covers hb).parts (Walk.of_asks_attempt h)⟩
    · obtain ⟨act, hact, hparts⟩ := ih b hb r h
      exact ⟨act, .later hb hr hact, hparts⟩

end Program

/-! ### Functions -/

namespace Walk

private theorem resolve_covers (f : FuncValue) : (resolve host f).Covers host := by
  cases f with
  | direct f => exact .pure f
  | contextBound id =>
    refine .read_bind fun found ↦ ?_
    split
    · exact .pure _
    · exact .read_bind fun _ ↦ .bind (.plain _) fun _ ↦ .bind (.modify _) fun _ ↦ .pure _

private theorem program_covers (f : Function) (args : List Value) :
    (program host (f.program host args)).Covers host := by
  refine ⟨fun {s u task} ha ↦ ?_⟩
  obtain ⟨act, hact, hparts⟩ := Program.exists_performs ha
  exact .head (.performed hact) hparts

private theorem callFunction_covers (f : Function) (name : String) (args : List Value) :
    (callFunction host f name args).Covers host := by
  refine ⟨fun {s u task} ha ↦ ?_⟩
  rw [callFunction] at ha
  cases hc : f.checkArity name args.length with
  | error e =>
    rw [hc] at ha
    cases ha
  | ok =>
    rw [hc] at ha
    obtain h | ⟨_, v, hv, h⟩ := of_asks_bind ha
    · cases h
    cases hv
    rw [read_bind] at h
    obtain h | ⟨r, v, -, h⟩ := of_asks_bind h
    · obtain ⟨act, hact, hparts⟩ := Program.exists_performs (of_asks_after (of_asks_attempt h))
      exact .head (.called hc hact) hparts
    · cases r with
      | ok | error => cases h

private theorem callValue_covers (f : Value) (args : List Value) :
    (callValue host f args).Covers host := by
  rw [callValue]
  split
  · refine .bind (resolve_covers _) fun g ↦ ?_
    split
    · exact .bind (program_covers g args) fun _ ↦ .hold _
    · exact .fail _
  · exact .fail _
  · exact .fail _
  · exact .fail _

/-! ### Evaluation and walks -/

variable {dot : Value}

private theorem wrap_covers (strip : Bool) (body : List Node)
    (before after otherwise : Option (List Node)) :
    (wrap strip body before after otherwise dot).Covers host := by
  refine ⟨fun {s u task} ha ↦ ?_⟩
  have ended (triggered : Bool) (result : Except EvalError Unit) :
      (do ofExcept result; optional (if triggered then after else otherwise) dot).Covers host :=
    .bind (.ofExcept result) fun _ ↦ .optional _ _
  obtain h | ⟨_, v, hv, h⟩ := of_asks_attempt_bind (fun _ _ ↦ ⟨_, rfl⟩) (of_asks_after ha)
  · exact .head .wrapped ((Covers.perform _).parts h)
  · refine .head (.next (.done _)) (.head .after (.head (.next (.done _)) (.head (.next (.done _))
      (.head (.next (attempt_ends hv)) ?_))))
    exact (Covers.bind (.modify _) fun _ ↦ .read_bind fun _ ↦ .bind (.modify _) fun _ ↦
      ended _ _).parts h

/-- What evaluation and walks are made of has among its parts whatever it asks for. -/
theorem Made.covers {m : Walk α} (h : Made host m) : m.Covers host := by
  induction h with
  | pure a => exact .pure a
  | fail _ => exact .fail _
  | read _ => exact .read _
  | find _ _ => exact .bind (.read _) .ofExcept
  | hold v => exact .hold v
  | newObject o => exact .newObject o
  | receive channel => exact .receive channel
  | setVars _ => exact .modify _
  | setPlace span subject => exact .setPlace span subject
  | resolve f => exact resolve_covers f
  | call f name args => exact callFunction_covers f name args
  | text s => exact write_covers _
  | nodes => exact .perform _
  | callback => exact .ask _
  | collect => exact .capture (.perform _)
  | wrap => exact wrap_covers ..
  | enter =>
    exact .bind (.setPlace _ _) fun _ ↦ .read_bind fun _ ↦ .bind (.modify _) fun _ ↦
      .framed (.after (.perform _))
  | bind _ _ ih ihf => exact .bind ih ihf
  | afterVars _ _ ih => exact .after ih
  | located _ ih => exact .located ih

private theorem callWithBlock_covers (call : Command) (body : List Node) :
    (callWithBlock host call body dot).Covers host :=
  .read_bind fun handle ↦ .bind (.modify _) fun _ ↦
    .after (blockCall_evalWith_made handle call).covers

private theorem runBody_covers (handle : Nat) (b : Block) : (runBody handle b dot).Covers host :=
  .read_bind fun _ ↦ .bind (.after (.perform _)) fun _ ↦ .bind (.changeAt ..) fun _ ↦ .changeAt ..

private theorem invokeBlock_covers (handle : Nat) (args : List Value) :
    (invokeBlock handle dot args).Covers host := by
  refine .read_bind fun found ↦ ?_
  split
  · exact .fail _
  · exact .bind (.hold _) fun _ ↦ .bind (.changeAt ..) fun _ ↦ .bind (.changeAt ..) fun _ ↦
      runBody_covers handle _

/-- What a task asks for is a part of it. -/
theorem start_covers (task : Task) : (start host task).Covers host := by
  cases task with
  | walk nodes | enter nodes | render nodes => exact .bind (each_made nodes).covers fun _ ↦ .pure _
  | call f args => exact callValue_covers f args
  | invoke handle dot args => exact .bind (invokeBlock_covers handle args) fun _ ↦ .pure _
  | callback call body => exact callWithBlock_covers call body

end Walk

/-- At every moment of the run of a task, the task that runs is a part of it. -/
theorem Moment.parts {start request : Request} {below : List Request}
    (h : Moment host start (request :: below)) :
    Parts host ⟨Walk.start host start.1, start.2⟩ ⟨Walk.start host request.1, request.2⟩ := by
  generalize hl : request :: below = stack at h
  induction h generalizing request below with
  | start =>
    cases hl
    exact .refl
  | ask _ ha ih =>
    cases hl
    exact (ih rfl).trans ((Walk.start_covers _).parts ha)

end TextTemplate
