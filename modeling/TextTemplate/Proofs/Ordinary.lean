import TextTemplate.Proofs.Fresh

/-!
# Ordinary programs

What the built-in functions do is ordinary (`Builtin.stateful_ordinary`): they pass on every error
that they receive, the errors that they make are fresh, they do not look at the context of the
render, and they leave the host alone. What holds of all that is ordinary holds of the built-in
functions.
-/

set_option autoImplicit false

namespace TextTemplate

variable {α β : Type} {calls : Value → List Value → Prop}

/-- Every function value may be called. -/
def anyCall : Value → List Value → Prop := fun _ _ ↦ True

/-- A computation that leaves the host alone, and fails with fresh errors only. It panics where a
text cannot be formatted. -/
inductive Plain.Ordinary : Plain α → Prop where
  | done (a : α) : Ordinary (.done a)
  | fail {e : EvalError} : e.frames = [] → Ordinary (.fail e)
  | outOfRange : Ordinary (.panic (some "Formatting argument out of range"))
  | queued {channel : Nat} {next : Nat → Plain α} :
      (∀ n, Ordinary (next n)) → Ordinary (.queued channel next)

private theorem Plain.ordinary_ofExcept {x : Except EvalError α} (h : Fresh x) :
    (ofExcept x).Ordinary := by
  cases x with
  | ok a => exact .done a
  | error e => exact .fail (h.frames e rfl)

/-- A program that passes on errors, makes fresh ones only, leaves the host and the context of the
render alone, and calls some function values only. -/
inductive Program.Ordinary (calls : Value → List Value → Prop) : Program α → Prop where
  | finish {p : Plain α} : p.Ordinary → Ordinary calls (.finish p)
  | view {next : View → Program α} :
      (∀ (v : View) (c : Context), next { v with context := c } = next v) →
        (∀ v, Ordinary calls (next v)) → Ordinary calls (.view next)
  | newObject {o : Object} {next : Value → Program α} :
      (∀ v, Ordinary calls (next v)) → Ordinary calls (.newObject o next)
  | receive {channel : Nat} {next : Option Value → Program α} :
      (∀ v, Ordinary calls (next v)) → Ordinary calls (.receive channel next)
  | updateStore {update : Dict Value → Dict Value} {next : Program α} :
      Ordinary calls next → Ordinary calls (.updateStore update next)
  | write {text : String} {next : Unit → Program α} :
      (∀ u, Ordinary calls (next u)) → Ordinary calls (.write text (orFail next))
  | callValue {f : Value} {args : List Value} {next : Value → Program α} :
      calls f args → (∀ v, Ordinary calls (next v)) →
        Ordinary calls (.callValue f args (orFail next))
  | runBlock {handle : Nat} {dot : Value} {args : List Value} {captured : Bool}
      {next : ByteArray → Program α} :
      (∀ bytes, Ordinary calls (next bytes)) →
        Ordinary calls (.runBlock handle dot args captured (orFail next))
  | render {template : String} {data : Option Value} {next : String → Program α} :
      (∀ text, Ordinary calls (next text)) → Ordinary calls (.render template data (orFail next))
  | yield {template : String} {data : Option Value} {next : Unit → Program α} :
      (∀ u, Ordinary calls (next u)) → Ordinary calls (.yield template data (orFail next))

namespace Program.Ordinary

private theorem done (a : α) : (Program.done a).Ordinary calls := .finish (.done a)

private theorem fail {e : EvalError} (h : e.frames = []) :
    (Program.fail e : Program α).Ordinary calls :=
  .finish (.fail h)

private theorem writeAll {next : Program α} (h : next.Ordinary calls) (texts : List String) :
    (Program.writeAll next texts).Ordinary calls := by
  induction texts with
  | nil => exact h
  | cons text rest ih => exact .write fun _ ↦ ih

end Program.Ordinary

/-! ### Loops over callbacks -/

namespace Loop

variable {f : Frame}

private theorem Frame.round_ordinary {index : Nat} {key value : Value} {isLast : Bool}
    {next : Program Results} (h : next.Ordinary calls) :
    (f.round index key value isLast next).Ordinary calls :=
  .newObject fun _ ↦ .runBlock fun _ ↦ h

private theorem Frame.rounds_ordinary (items : List (Value × Value)) (index : Nat) :
    (f.rounds index items).Ordinary calls := by
  induction items generalizing index with
  | nil => exact .done _
  | cons item rest ih => exact round_ordinary (ih (index + 1))

private theorem Frame.channelRounds_ordinary (channel fuel index : Nat) (item : Option Value) :
    (f.channelRounds channel fuel index item).Ordinary calls := by
  induction fuel generalizing index item with
  | zero => exact .done _
  | succ fuel ih =>
    cases item with
    | none => exact .done _
    | some value => exact .receive fun next ↦ round_ordinary (ih (index + 1) next)

private theorem program_ordinary (args : List Value) : (program args).Ordinary calls := by
  rw [program]
  split
  · dsimp only
    split
    · exact .done _
    · exact .done _
    · exact Frame.rounds_ordinary ..
    · exact Frame.rounds_ordinary ..
    · exact .view (fun _ _ ↦ rfl) fun _ ↦ .receive fun _ ↦ Frame.channelRounds_ordinary ..
    · exact .fail rfl
  · exact .fail rfl

end Loop

/-! ### Functions of the running render -/

namespace RenderFunction

private theorem funcs_ordinary (args : List Value) : (funcs args).Ordinary calls := by
  rw [funcs]
  split
  · next e he => exact .fail ((textArgs_fresh ..).frames e he)
  · refine .view (fun _ _ ↦ rfl) fun view ↦ ?_
    split
    · exact .fail rfl
    · exact .newObject fun _ ↦ .done _

private theorem dataFuncs_ordinary (args : List Value) : (dataFuncs args).Ordinary calls := by
  refine .view (fun _ _ ↦ rfl) fun view ↦ ?_
  split
  · next e he => exact .fail ((collect_fresh ..).frames e he)
  · exact .newObject fun _ ↦ .done _

private theorem set_ordinary (args : List Value) : (set args).Ordinary calls := by
  rw [set]
  split
  · exact .fail rfl
  · split
    · next e he => exact .fail ((localEntries_fresh _).frames e he)
    · exact .updateStore (.done _)

private theorem get_ordinary (args : List Value) : (get args).Ordinary calls := by
  match args with
  | [] => exact .view (fun _ _ ↦ rfl) fun _ ↦ .done _
  | [k] =>
    rw [get]
    split
    · next e he => exact .fail ((localKey_fresh k).frames e he)
    · exact .view (fun _ _ ↦ rfl) fun _ ↦ .done _
  | _ :: _ :: _ => exact .fail rfl

private theorem templateExec_ordinary (args : List Value) : (templateExec args).Ordinary calls := by
  rw [templateExec]
  split
  · next e he => exact .fail ((templateArgs_fresh ..).frames e he)
  · exact .render fun _ ↦ .done _

private theorem tplYield_ordinary (args : List Value) : (tplYield args).Ordinary calls := by
  rw [tplYield]
  split
  · next e he => exact .fail ((templateArgs_fresh ..).frames e he)
  · exact .yield fun _ ↦ .done _

end RenderFunction

private theorem Join.program_ordinary (args : List Value) : (program args).Ordinary calls := by
  rw [program]
  split
  · next e he => exact .fail ((items_fresh _).frames e he)
  · split
    · next e he => exact .fail ((Style.applyAll_fresh ..).frames e he)
    · exact .writeAll (.done _) _

/-! ### All built-in functions -/

namespace Builtin

/-- The built-in functions that need no running render are ordinary. -/
theorem plain_ordinary (b : Builtin) (args : List Value) : (b.plain args).Ordinary := by
  have single {x : Except EvalError Value} (hx : Fresh x) :
      (Plain.ofExcept (x.map Results.single)).Ordinary := Plain.ordinary_ofExcept (hx.map _)
  unfold plain
  split
  · split
    · exact .outOfRange
    · exact single (pureResult_fresh ..)
  · obtain ⟨x, hx, hslice⟩ := Collection.slice_fresh args
    rw [hslice]
    cases x with
    | ok v => exact .done _
    | error e => exact .fail (hx.frames e rfl)
  · dsimp only [queuedOf]
    split
    · exact .queued fun _ ↦ single (Collection.lengthOf_fresh ..)
    · exact single (Collection.lengthOf_fresh ..)
  · exact single (pureResult_fresh ..)

/-- The built-in functions are ordinary, and call their first argument at most. -/
theorem stateful_ordinary (b : Builtin) {args : List Value}
    (h : calls (args.headD .invalid) args.tail) : (b.stateful args).Ordinary calls := by
  cases b with
  | call => exact .callValue h fun _ ↦ .done _
  | rangeCallback => exact Loop.program_ordinary args
  | state => exact .view (fun _ _ ↦ rfl) fun _ ↦ .newObject fun _ ↦ .done _
  | funcs => exact RenderFunction.funcs_ordinary args
  | dataFuncs => exact RenderFunction.dataFuncs_ordinary args
  | set => exact RenderFunction.set_ordinary args
  | get => exact RenderFunction.get_ordinary args
  | templateExec | tplRender => exact RenderFunction.templateExec_ordinary args
  | tplYield => exact RenderFunction.tplYield_ordinary args
  | join => exact Join.program_ordinary args
  | _ => exact .finish (plain_ordinary _ args)

end Builtin

end TextTemplate
