import TextTemplate.Proofs.Ordinary

/-!
# Factories and their builds

A host counts the builds of a factory if the factory ends each build that it completes by counting
it in the host's own state, and nothing else changes the count. Where no function of the host calls
by a name what the factory builds, a build that is completed adds one to the count and any other
computation adds nothing (`Host.run_build_count`, `Plain.run_count`).
-/

set_option autoImplicit false

namespace TextTemplate

variable {α β : Type} {host : Host} {id : Nat} {count : Value → Nat}

/-! ### What computations do -/

namespace Plain

/-- The changes of the host's state and the calls by a name that a computation makes are all of one
kind. -/
def Only (update : (Value → Value) → Prop) (call : Context → String → Prop) : Plain α → Prop
  | .done _ | .fail _ | .panic _ => True
  | .host f next => update f ∧ ∀ v, (next v).Only update call
  | .queued _ next => ∀ n, (next n).Only update call
  | .callNamed context name _ next => call context name ∧ ∀ r, (next r).Only update call

variable {U : (Value → Value) → Prop} {C : Context → String → Prop} {p : Plain α}

private theorem Only.both (h : p.Only U fun _ _ ↦ True) (k : p.Only (fun _ ↦ True) C) :
    p.Only U C := by
  induction p with
  | done | fail | panic => trivial
  | host f next ih => exact ⟨h.1, fun v ↦ ih v (h.2 v) (k.2 v)⟩
  | queued channel next ih => exact fun n ↦ ih n (h n) (k n)
  | callNamed context name args next ih => exact ⟨k.1, fun r ↦ ih r (h.2 r) (k.2 r)⟩

/-- A result changes nothing of the host and calls nothing. -/
theorem only_ofExcept (x : Except EvalError α) : (ofExcept x).Only U C := by
  cases x with
  | ok _ | error _ => trivial

private theorem Ordinary.only (h : p.Ordinary) : p.Only U C := by
  induction h with
  | done | fail | outOfRange => trivial
  | queued _ ih => exact ih

/-- A computation that ends what it completes with a change of the host's state. -/
def thenUpdate (update : Value → Value) : Plain α → Plain α
  | .done a => .host update fun _ => .done a
  | .fail e => .fail e
  | .panic message => .panic message
  | .host f next => .host f fun v => (next v).thenUpdate update
  | .queued channel next => .queued channel fun n => (next n).thenUpdate update
  | .callNamed context name args next =>
    .callNamed context name args fun r => (next r).thenUpdate update

private theorem Only.of_thenUpdate {f : Value → Value} (h : (p.thenUpdate f).Only U C) :
    p.Only (fun _ ↦ True) C := by
  induction p with
  | done | fail | panic => trivial
  | host g next ih => exact ⟨trivial, fun v ↦ ih v (h.2 v)⟩
  | queued channel next ih => exact fun n ↦ ih n (h n)
  | callNamed context name args next ih => exact ⟨h.1, fun r ↦ ih r (h.2 r)⟩

private theorem runWith_thenUpdate (f : Value → Value) (call : NamedCall) (p : Plain α)
    (r : Resources) : (p.thenUpdate f).runWith call r =
      match p.runWith call r with
      | (.ok a, r) => (.ok a, { r with hostState := f r.hostState })
      | x => x := by
  induction p generalizing r with
  | done | fail | panic => rfl
  | host g next ih => exact ih _ _
  | queued channel next ih => exact ih _ _
  | callNamed context name args next ih =>
    rw [thenUpdate, runWith, runWith]
    obtain ⟨o, r'⟩ := call context name args r
    cases o with
    | ok v => exact ih _ _
    | error e => exact ih _ _
    | panic message => rfl

end Plain

namespace Program

/-- The plain computations in a program make changes and calls by name of one kind only. -/
def Only (update : (Value → Value) → Prop) (call : Context → String → Prop) : Program α → Prop
  | .finish p => p.Only update call
  | .run p next => p.Only update call ∧ ∀ r, (next r).Only update call
  | .view next => ∀ v, (next v).Only update call
  | .newObject _ next => ∀ v, (next v).Only update call
  | .receive _ next => ∀ v, (next v).Only update call
  | .updateStore _ next => next.Only update call
  | .write _ next => ∀ r, (next r).Only update call
  | .callValue _ _ next => ∀ r, (next r).Only update call
  | .runBlock _ _ _ _ next => ∀ r, (next r).Only update call
  | .render _ _ next => ∀ r, (next r).Only update call
  | .yield _ _ next => ∀ r, (next r).Only update call
termination_by structural p => p

variable {U : (Value → Value) → Prop} {C : Context → String → Prop} {p : Program α}

private theorem Only.both (h : p.Only U fun _ _ ↦ True) (k : p.Only (fun _ ↦ True) C) :
    p.Only U C := by
  induction p with
  | finish p => exact Plain.Only.both h k
  | run p next ih => exact ⟨h.1.both k.1, fun r ↦ ih r (h.2 r) (k.2 r)⟩
  | updateStore _ _ ih => exact ih h k
  | view _ ih | newObject _ _ ih | receive _ _ ih | write _ _ ih | callValue _ _ _ ih
  | runBlock _ _ _ _ _ ih | render _ _ _ ih | yield _ _ _ ih => exact fun x ↦ ih x (h x) (k x)

/-- A program that passes errors on does only what it does with values. -/
theorem orFail_only {next : β → Program α} (h : ∀ b, (next b).Only U C) (r : Except EvalError β) :
    (orFail next r).Only U C := by
  cases r with
  | ok b => exact h b
  | error e => trivial

/-- An ordinary program neither changes the host's state nor calls a function by its name. -/
theorem Ordinary.only {calls : Value → List Value → Prop} (h : p.Ordinary calls) : p.Only U C := by
  induction h with
  | finish h => exact h.only
  | updateStore _ ih => exact ih
  | view _ _ ih | newObject _ ih | receive _ ih => exact ih
  | write _ ih | callValue _ _ ih | runBlock _ ih | render _ ih | yield _ ih => exact orFail_only ih

end Program

/-! ### Hosts that count -/

/-- The functions of a host make changes and calls by name of one kind only. -/
structure Host.Only (host : Host) (update : (Value → Value) → Prop)
    (call : Context → String → Prop) : Prop where
  plain : ∀ n context args, (host.plain n context args).Only update call
  stateful : ∀ n context args, (host.stateful n context args).Only update call
  misuse : ∀ f args, (host.misuse f args).Only update call

/-- A change of the state of the host that leaves a count in it as it is. -/
def Uncounted (count : Value → Nat) (f : Value → Value) : Prop := ∀ v, count (f v) = count v

/-- A name does not mean in a context what a factory builds. -/
def Misses (id : Nat) (context : Context) (name : String) : Prop :=
  context.funcs.get? name ≠ some (.contextBound id)

/-- A factory counts in the host's state the builds that it completes, and nothing else changes the
count. -/
structure Host.Counts (host : Host) (id : Nat) (count : Value → Nat) : Prop where
  functions : host.Only (Uncounted count) fun _ _ ↦ True
  others : ∀ n context, n ≠ id → (host.build n context).Only (Uncounted count) fun _ _ ↦ True
  build : ∀ context, ∃ (p : Plain Function) (f : Value → Value),
    host.build id context = p.thenUpdate f ∧ (p.Only (Uncounted count) fun _ _ ↦ True) ∧
      ∀ v, count (f v) = count v + 1

/-- Neither a function nor a factory calls by a name what a factory builds. -/
structure Host.Avoids (host : Host) (id : Nat) : Prop where
  functions : host.Only (fun _ ↦ True) (Misses id)
  builds : ∀ n context, (host.build n context).Only (fun _ ↦ True) (Misses id)

namespace Function

variable {U : (Value → Value) → Prop} {C : Context → String → Prop}

private theorem plainProgram_only (h : host.Only U C) (f : Function) (args : List Value) :
    (f.plainProgram host args).Only U C := by
  rw [plainProgram]
  split
  · trivial
  · split
    · rw [plainBody]
      split
      · exact (Builtin.plain_ordinary ..).only
      · exact h.plain ..
    · exact h.misuse ..

/-- Functions of a host do only what the host's programs do. -/
theorem program_only (h : host.Only U C) (f : Function) (args : List Value) :
    (f.program host args).Only U C := by
  rw [program]
  split
  · rw [body]
    split
    · next b _ =>
      have hb : (b.stateful (f.bound ++ args)).Ordinary anyCall := b.stateful_ordinary trivial
      exact hb.only
    · split
      · exact h.stateful ..
      · exact h.plain ..
  · exact h.misuse ..

end Function

/-! ### Counts of builds -/

/-- A host that does only some changes and only some calls does only both. -/
theorem Host.Only.both {U : (Value → Value) → Prop} {C : Context → String → Prop}
    (h : host.Only U fun _ _ ↦ True) (k : host.Only (fun _ ↦ True) C) : host.Only U C where
  plain n context args := (h.plain n context args).both (k.plain n context args)
  stateful n context args := (h.stateful n context args).both (k.stateful n context args)
  misuse f args := (h.misuse f args).both (k.misuse f args)

/-- A computation that leaves a count alone leaves it so if the functions do that it calls by
name. -/
theorem Plain.runWith_count {call : NamedCall}
    (hcall : ∀ context name args r, Misses id context name →
      count (call context name args r).2.hostState = count r.hostState)
    {p : Plain α} (hp : p.Only (Uncounted count) (Misses id)) (r : Resources) :
    count (p.runWith call r).2.hostState = count r.hostState := by
  induction p generalizing r with
  | done | fail | panic => rfl
  | host f next ih => exact (ih _ (hp.2 _) _).trans (hp.1 _)
  | queued channel next ih => exact ih _ (hp _) _
  | callNamed context name args next ih =>
    have hr := hcall context name args r hp.1
    rw [runWith]
    generalize call context name args r = x at hr
    obtain ⟨o, r'⟩ := x
    cases o with
    | ok v => exact (ih _ (hp.2 _) _).trans hr
    | error e => exact (ih _ (hp.2 _) _).trans hr
    | panic message => exact hr

/-- What a computation counts, by how it ends. -/
def Outcome.builds : Outcome α → Nat
  | .ok _ => 1
  | .error _ | .panic _ => 0

section

variable (hc : host.Counts id count) (ha : host.Avoids id)
include hc ha

/-- No call by a name counts a build, if the name does not mean what the factory builds. -/
theorem Context.callWithin_count (limit : Nat) (context : Context) (name : String)
    (args : List Value) (r : Resources) (hm : Misses id context name) :
    count (callWithin host limit context name args r).2.hostState = count r.hostState := by
  induction limit generalizing context name args r with
  | zero => rfl
  | succ limit ih =>
    have run {γ : Type} {p : Plain γ} (hp : p.Only (Uncounted count) (Misses id)) (r : Resources) :
        count (p.runWith (callWithin host limit) r).2.hostState = count r.hostState :=
      Plain.runWith_count (fun context name args r hm ↦ ih context name args r hm) hp r
    rw [callWithin]
    cases hf : context.funcs.get? name with
    | none => rfl
    | some value =>
      have hresolve : (value.resolve host context).Only (Uncounted count) (Misses id) := by
        cases value with
        | direct f => trivial
        | contextBound n =>
          have hn : n ≠ id := by
            rintro rfl
            exact hm hf
          exact (hc.others n context hn).both (ha.builds n context)
      have hr := run hresolve r
      dsimp only
      generalize (value.resolve host context).runWith (callWithin host limit) r = x at hr
      obtain ⟨o, r₁⟩ := x
      cases o with
      | error e => exact hr
      | panic message => exact hr
      | ok f =>
        rw [Ended.andThen]
        cases f.checkArity name args.length with
        | error e => exact hr
        | ok _ =>
          have hbody := run (f.plainProgram_only (hc.functions.both ha.functions) args) r₁
          dsimp only
          generalize (f.plainProgram host args).runWith (callWithin host limit) r₁ = y at hbody
          obtain ⟨o', r₂⟩ := y
          cases o' with
          | ok results => exact hbody.trans hr
          | error e => exact hbody.trans hr
          | panic message => exact hbody.trans hr

/-- A computation without counted changes, which does not call the function, leaves the count. -/
theorem Plain.run_count {p : Plain α} (hp : p.Only (Uncounted count) (Misses id)) (r : Resources) :
    count (p.run host r).2.hostState = count r.hostState :=
  runWith_count (Context.callWithin_count hc ha callNesting) hp r

/-- A factory counts the builds that it completes, and no others; another factory counts none. -/
theorem Host.run_build_count (n : Nat) (context : Context) (r : Resources) :
    count ((host.build n context).run host r).2.hostState =
      count r.hostState + if n = id then ((host.build n context).run host r).1.builds else 0 := by
  split
  · next hn =>
    subst hn
    obtain ⟨p, f, hp, huncounted, hf⟩ := hc.build context
    have hmisses := ha.builds n context
    rw [hp] at hmisses
    have hr := Plain.run_count hc ha (huncounted.both hmisses.of_thenUpdate) r
    rw [hp, Plain.run, Plain.runWith_thenUpdate, ← Plain.run]
    generalize p.run host r = x at hr
    obtain ⟨o, r'⟩ := x
    cases o with
    | ok g => exact (hf _).trans (congrArg (· + 1) hr)
    | error e => exact hr
    | panic message => exact hr
  · next hn => exact Plain.run_count hc ha ((hc.others n context hn).both (ha.builds n context)) r

end

end TextTemplate
