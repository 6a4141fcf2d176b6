import TextTemplate.Proofs.Ordinary

/-!
# Confusing contexts

Of the context of a render, a function learns by a view of the render, and a factory as what it
builds from. A host confuses two contexts if neither its functions nor its factories do otherwise in
the one than in the other. The built-in functions do not look at the context at all
(`Builtin.stateful_confuses`).
-/

set_option autoImplicit false

namespace TextTemplate

variable {α : Type} {c c' : Context} {host : Host}

namespace Program

/-- A program goes on alike in two contexts. -/
def Confuses (c c' : Context) : Program α → Prop
  | .finish _ => True
  | .run _ next => ∀ r, (next r).Confuses c c'
  | .view next =>
    (∀ v : View, next { v with context := c } = next { v with context := c' }) ∧
      ∀ v, (next v).Confuses c c'
  | .newObject _ next => ∀ v, (next v).Confuses c c'
  | .receive _ next => ∀ v, (next v).Confuses c c'
  | .updateStore _ next => next.Confuses c c'
  | .write _ next => ∀ r, (next r).Confuses c c'
  | .callValue _ _ next => ∀ r, (next r).Confuses c c'
  | .runBlock _ _ _ _ next => ∀ r, (next r).Confuses c c'
  | .render _ _ next => ∀ r, (next r).Confuses c c'
  | .yield _ _ next => ∀ r, (next r).Confuses c c'
termination_by structural p => p

/-- Every program goes on as it does. -/
theorem confuses_self (p : Program α) : p.Confuses c c := by
  induction p with
  | finish => trivial
  | view _ ih => exact ⟨fun _ ↦ rfl, ih⟩
  | updateStore _ _ ih => exact ih
  | run _ _ ih | newObject _ _ ih | receive _ _ ih | write _ _ ih | callValue _ _ _ ih
  | runBlock _ _ _ _ _ ih | render _ _ _ ih | yield _ _ _ ih => exact ih

private theorem orFail_confuses {β : Type} {next : β → Program α} (h : ∀ b, (next b).Confuses c c')
    (r : Except EvalError β) : (orFail next r).Confuses c c' := by
  cases r with
  | ok b => exact h b
  | error e => trivial

/-- An ordinary program does not look at the context. -/
theorem Ordinary.confuses {calls : Value → List Value → Prop} {p : Program α}
    (h : p.Ordinary calls) : p.Confuses c c' := by
  induction h with
  | finish => trivial
  | view hv _ ih => exact ⟨fun v ↦ (hv v c).trans (hv v c').symm, ih⟩
  | updateStore _ ih => exact ih
  | newObject _ ih | receive _ ih => exact ih
  | write _ ih | callValue _ _ ih | runBlock _ ih | render _ ih | yield _ ih =>
    exact orFail_confuses ih

end Program

/-- A host does alike in two contexts: its functions go on alike, and its factories build the
same. -/
structure Host.Confuses (host : Host) (c c' : Context) : Prop where
  stateful : ∀ id context args, (host.stateful id context args).Confuses c c'
  build : ∀ id, host.build id c = host.build id c'

/-- A host acts alike in a context and that context itself. -/
theorem Host.confuses_self (host : Host) (c : Context) : host.Confuses c c :=
  ⟨fun _ _ _ ↦ Program.confuses_self _, fun _ ↦ rfl⟩

/-- The built-in functions go on alike in all contexts. -/
theorem Builtin.stateful_confuses (b : Builtin) (args : List Value) :
    (b.stateful args).Confuses c c' := by
  have h : (b.stateful args).Ordinary anyCall := b.stateful_ordinary trivial
  exact h.confuses

/-- A call goes on alike in contexts that the host confuses. -/
theorem Function.program_confuses (h : host.Confuses c c') (f : Function) (args : List Value) :
    (f.program host args).Confuses c c' := by
  rw [program]
  split
  · rw [body]
    split
    · exact Builtin.stateful_confuses ..
    · split
      · exact h.stateful ..
      · trivial
  · trivial

end TextTemplate
