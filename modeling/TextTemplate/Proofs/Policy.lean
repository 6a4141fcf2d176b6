import TextTemplate.Proofs.Child
import TextTemplate.Proofs.Growth

/-!
# Policies

A policy says whether the text of an error is written to the output. Nothing that a render does
depends on it: with a writer that takes everything, executors that differ in their policies render
the same, and the text of an error comes at most at the end (`Executor.execute_setPolicy`).
-/

set_option autoImplicit false

namespace TextTemplate

variable {host : Host}

private theorem Resources.newStore_size_pos (r : Resources) : 0 < r.newStore.2.stores.size := by
  rw [newStore, Array.size_push]
  exact Nat.succ_pos _

/-! ### Texts of errors -/

/-- An error of the output itself. -/
def RenderError.IsWrite (e : RenderError) : Prop := ∃ text, e = .write text

/-- The text that tells of a failure, if it is not one of the output. -/
def Verdict.errorText : Verdict → ByteArray
  | .ok | .panic _ | .error (.write _) => .empty
  | .error e => e.message.toUTF8

private theorem append_ne_empty {x y : String} (h : x ≠ "") : x ++ y ≠ "" :=
  fun hxy ↦ h (String.append_eq_empty_iff.mp hxy).1

private theorem ExecError.message_ne_empty (e : ExecError) : e.message ≠ "" := by
  have hstart : "template: " ≠ "" := by decide
  rw [message]
  split
  · iterate 3 apply append_ne_empty
    exact hstart
  · iterate 7 apply append_ne_empty
    exact hstart

private theorem ScopeError.message_ne_empty (e : ScopeError) : e.message ≠ "" := by
  cases e with
  | badName _ | badReturnType _ | undefined _ =>
    exact append_ne_empty (append_ne_empty (by decide))

/-- Every error but one of the output has a text. -/
theorem RenderError.message_ne_empty {e : RenderError} (h : ¬ e.IsWrite) : e.message ≠ "" := by
  cases e with
  | write text => exact (h ⟨text, rfl⟩).elim
  | exec e => exact e.message_ne_empty
  | func e => exact e.message_ne_empty
  | option e => exact append_ne_empty (by decide)
  | noTemplate name owner =>
    iterate 3 apply append_ne_empty
    decide

private theorem RenderError.not_isWrite_exec (e : ExecError) : ¬ (exec e).IsWrite := by
  rintro ⟨_, h⟩
  cases h

private theorem RenderError.not_isWrite_func (e : ScopeError) : ¬ (func e).IsWrite := by
  rintro ⟨_, h⟩
  cases h

private theorem Verdict.errorText_of_not_isWrite {e : RenderError} (h : ¬ e.IsWrite) :
    (Verdict.error e).errorText = e.message.toUTF8 := by
  cases e with
  | write text => exact (h ⟨text, rfl⟩).elim
  | exec _ | func _ | option _ | noTemplate _ _ => rfl

private theorem Verdict.errorText_eq_empty_iff (v : Verdict) :
    v.errorText = .empty ↔ ∀ e, v = .error e → e.IsWrite := by
  cases v with
  | ok | panic _ => exact ⟨fun _ _ h ↦ (nomatch h), fun _ ↦ rfl⟩
  | error e =>
    by_cases hw : e.IsWrite
    · obtain ⟨text, rfl⟩ := hw
      exact ⟨fun _ _ h ↦ by cases h; exact ⟨text, rfl⟩, fun _ ↦ rfl⟩
    · refine ⟨fun h ↦ ?_, fun h ↦ (hw (h e rfl)).elim⟩
      rw [errorText_of_not_isWrite hw] at h
      exact (RenderError.message_ne_empty hw (String.toByteArray_inj.mp h)).elim

/-- A writer to which the text of a failure has been added, if it is to be. -/
def Writer.told (w : Writer) (tells : Bool) (v : Verdict) : Writer :=
  if tells then { w with written := w.written ++ v.errorText } else w

private theorem Writer.told_of_empty {v : Verdict} (h : v.errorText = .empty) (w : Writer)
    (tells : Bool) : w.told tells v = w := by
  rw [told, h, ByteArray.append_empty, ite_self]

namespace Executor

/-! ### One render -/

variable {e : Executor} {w : Writer}

/-- A writer that takes everything takes the text of an error. -/
theorem report_unlimited (e : Executor) {error : RenderError} (h : ¬ error.IsWrite)
    (hw : w.capacity = none) :
    e.report error w = (error, w.told e.writesErrors (.error error)) := by
  rw [report, Writer.told, Verdict.errorText_of_not_isWrite h, Writer.writeText, Writer.write, hw]
  split
  · rfl
  · rfl

/-- What a writer that takes everything has at the end is what it had, and the text of the failure
if the policy says so. -/
theorem conclude_unlimited (e : Executor) (error : EvalError) (hw : w.capacity = none) :
    (e.conclude error w).2 = w.told e.writesErrors (e.conclude error w).1 := by
  rw [conclude]
  split
  · exact (Writer.told_of_empty rfl w _).symm
  · split
    · exact (Writer.told_of_empty rfl w _).symm
    · rw [report_unlimited e (RenderError.not_isWrite_exec _) hw]

private theorem writeRaw_unlimited (raw : RawOutput) (hw : w.capacity = none) :
    (writeRaw raw w).2.capacity = none := by
  rw [writeRaw, Writer.write]
  simp only [hw]
  cases raw.fault with
  | none | some _ => rfl

/-- A render leaves a writer that takes everything as one that does. -/
theorem render_unlimited {budget : Nat} {data : Value} {r : Resources}
    {p : Outcome Unit × Writer × Resources} (hw : w.capacity = none)
    (h : e.render host budget data w r = some p) : p.2.1.capacity = none := by
  rw [render] at h
  split at h
  · next raw _ =>
    cases h
    exact writeRaw_unlimited raw hw
  · split at h
    · cases h
      exact hw
    · next tree _ =>
      obtain ⟨reply, hreply, rfl⟩ := Option.map_eq_some_iff.mp h
      have hstart : (State.initial e data w r).HoldsText := State.holdsText_of_nil rfl
      have hgrows := (Walk.start_answered hstart (Walk.run_iff.mp ⟨budget, hreply⟩)).grows
      exact hgrows.capacity.trans hw

end Executor

/-! ### Two renders -/

/-- Two renders have the same verdict and leave the same resources, and what they have written
differs at most in the text of the failure, which those have added that tell of it. -/
structure Rendered.UpToText (tells tells' : Bool) (x y : Rendered) : Prop where
  verdict : x.verdict = y.verdict
  resources : x.resources = y.resources
  writer : ∃ w : Writer, x.writer = w.told tells x.verdict ∧ y.writer = w.told tells' y.verdict

namespace Executor.RendersAs

variable {x y : Executor} {data : Value} {w : Writer} {r : Resources} (h : x.RendersAs y)
include h

private theorem conclude_fst (error : EvalError) (hw : w.capacity = none) :
    (x.conclude error w).1 = (y.conclude error w).1 := by
  rw [conclude, conclude, h.captures, h.template, h.fullPath]
  split
  · rfl
  · split
    · rfl
    · have he (e : ExecError) := RenderError.not_isWrite_exec e
      rw [x.report_unlimited (he _) hw, y.report_unlimited (he _) hw]

variable (hs : x.store = y.store) (hc : x.context data = y.context data) (hr : 0 < r.stores.size)
  (budget : Nat)
include hs hc hr

/-- With the same context and the same local data, the walk of the template is the same. -/
theorem render_eq : x.render host budget data w r = y.render host budget data w r := by
  have hj : Link.same.Joins x.store y.store := hs ▸ Link.joins_same x.store
  have hconfuses : host.Confuses (x.context data) (y.context data) := hc ▸ host.confuses_self _
  have hrender := h.render hj hconfuses (Resources.linked_same hr) budget (w := w)
  generalize x.render host budget data w r = p, y.render host budget data w r = q at hrender
  cases hrender with
  | none => rfl
  | some hpq =>
    obtain ⟨ho, hw, hlinked⟩ := hpq
    exact congrArg some (Prod.ext ho (Prod.ext hw hlinked.eq_of_same.symm))

variable (hw : w.capacity = none)
include hw

private theorem finish_unlimited :
    Option.Rel (Rendered.UpToText x.writesErrors y.writesErrors)
      (x.finish host budget data w r) (y.finish host budget data w r) := by
  rw [Executor.finish, Executor.finish, h.render_eq hs hc hr]
  cases hp : y.render host budget data w r with
  | none => exact .none
  | some p =>
    have hw' := render_unlimited hw hp
    obtain ⟨o, w', r'⟩ := p
    apply Option.Rel.some
    cases o with
    | ok _ | panic _ =>
      exact ⟨rfl, rfl, w', (Writer.told_of_empty rfl w' _).symm,
        (Writer.told_of_empty rfl w' _).symm⟩
    | error error =>
      exact ⟨h.conclude_fst error hw', rfl, w', x.conclude_unlimited error hw',
        y.conclude_unlimited error hw'⟩

/-- Renders of data without additional functions differ in the text of a failure. -/
theorem execute_nil_unlimited :
    Option.Rel (Rendered.UpToText x.writesErrors y.writesErrors)
      (x.execute host budget data [] w r) (y.execute host budget data [] w r) := by
  rw [Executor.execute, Executor.execute]
  dsimp only [extended]
  cases data.dataFuncs? with
  | none => exact h.finish_unlimited hs hc hr budget hw
  | some p =>
    obtain ⟨inner, funcs⟩ := p
    have hscope := h.withScope funcs r.newStore.1 r.newStore.1
    have hrel : Option.Rel _ (Executor.finish host budget _ inner w _) _ :=
      hscope.finish_unlimited rfl (h.context_withScope ..).symm r.newStore_size_pos budget hw
    rwa [writesErrors_withScope, writesErrors_withScope] at hrel

private theorem execute_unlimited (extra : List (List (String × FuncValue))) :
    Option.Rel (Rendered.UpToText x.writesErrors y.writesErrors)
      (x.execute host budget data extra w r) (y.execute host budget data extra w r) := by
  cases extra with
  | nil => exact h.execute_nil_unlimited hs hc hr budget hw
  | cons funcs rest =>
    rw [execute_cons, execute_cons]
    split
    · have he (e : ScopeError) := RenderError.not_isWrite_func e
      rw [x.report_unlimited (he _) hw, y.report_unlimited (he _) hw]
      exact .some ⟨rfl, rfl, w, rfl, rfl⟩
    · next scope _ =>
      have hscope := h.withScope scope r.newStore.1 r.newStore.1
      have hrel : Option.Rel _ (Executor.execute host budget _ data [] w _) _ :=
        hscope.execute_nil_unlimited rfl (h.context_withScope ..).symm r.newStore_size_pos budget hw
      rwa [writesErrors_withScope, writesErrors_withScope] at hrel

end Executor.RendersAs

/-- A render that tells of its failure has added the text of an error to what another one has
written, and nothing if there is none but one of the output. -/
structure Rendered.Tells (x y : Rendered) : Prop where
  added : ∀ error, y.verdict = .error error → ¬ error.IsWrite →
    x.writer.written = y.writer.written ++ error.message.toUTF8
  same_iff : x.writer = y.writer ↔ ∀ error, y.verdict = .error error → error.IsWrite

namespace Rendered.UpToText

variable {x y : Rendered}

private theorem writer_eq {tells : Bool} (h : x.UpToText tells tells y) : x.writer = y.writer := by
  obtain ⟨w, hx, hy⟩ := h.writer
  rw [hx, hy, h.verdict]

private theorem tells (h : x.UpToText true false y) : x.Tells y := by
  obtain ⟨w, hx, hy⟩ := h.writer
  have hw : y.writer = w := hy
  have hx' : x.writer = { y.writer with written := y.writer.written ++ y.verdict.errorText } := by
    rw [hw, hx, h.verdict]
    rfl
  refine ⟨fun error hv he ↦ ?_, ?_⟩
  · rw [hx', hv, Verdict.errorText_of_not_isWrite he]
  · rw [← Verdict.errorText_eq_empty_iff, hx']
    constructor
    · intro heq
      have hwritten : y.writer.written ++ y.verdict.errorText = y.writer.written ++ .empty :=
        (congrArg Writer.written heq).trans ByteArray.append_empty.symm
      exact (ByteArray.append_right_inj _).mp hwritten
    · intro hempty
      rw [hempty, ByteArray.append_empty]

end Rendered.UpToText

/-- What a policy comes to, where the parents write errors or not. -/
def WritePolicy.writes (policy : WritePolicy) (above : Bool) : Bool :=
  match policy with
  | .force => true
  | .suppress => false
  | .inherit => above

namespace Executor

/-- An executor with another policy of its own. -/
def setPolicy (e : Executor) (policy : WritePolicy) : Executor := { e with policy := policy }

variable {e : Executor}

/-- The nearest policy counts: that of an executor unless it is to be inherited. -/
theorem writesErrors_setPolicy (e : Executor) (policy : WritePolicy) :
    (e.setPolicy policy).writesErrors = policy.writes (e.parent.any writesErrors) := by
  obtain ⟨_, _, _, parent, _, _, _, _, _, _, _⟩ := e
  cases parent with
  | none | some _ => cases policy <;> rfl

private theorem layers_setPolicy (e : Executor) (policy : WritePolicy) :
    (e.setPolicy policy).layers = e.layers := by
  obtain ⟨_, _, _, parent, _, _, _, _, _, _, _⟩ := e
  cases parent with
  | none | some _ => rfl

private theorem rendersAs_setPolicy (e : Executor) (p q : WritePolicy) :
    (e.setPolicy p).RendersAs (e.setPolicy q) where
  set := rfl
  template := rfl
  options := rfl
  superPath := rfl
  raw := rfl
  captures := rfl
  depth := rfl
  layers := by rw [layers_setPolicy, layers_setPolicy]

/-- Executors that differ in their policies alone take as many steps, end in the same way and leave
the same resources, whatever the template, the data and the additional functions are, if the writer
takes everything. Whether they write errors is for their own policies to say, or else for the
parents'. They write the same if both or neither do; else the one that does adds the text of an
error that is not one of the output, and nothing otherwise. -/
theorem execute_setPolicy {r : Resources} {w : Writer} (he : e.store < r.stores.size)
    (hw : w.capacity = none) (host : Host) (budget : Nat) (data : Value)
    (extra : List (List (String × FuncValue))) (p q : WritePolicy) :
    (∀ policy : WritePolicy,
      (e.setPolicy policy).writesErrors = policy.writes (e.parent.any writesErrors)) ∧
    Option.Rel
      (fun x y ↦ x.verdict = y.verdict ∧ x.resources = y.resources ∧
        ((e.setPolicy p).writesErrors = (e.setPolicy q).writesErrors → x.writer = y.writer) ∧
        ((e.setPolicy p).writesErrors = true → (e.setPolicy q).writesErrors = false → x.Tells y))
      ((e.setPolicy p).execute host budget data extra w r)
      ((e.setPolicy q).execute host budget data extra w r) := by
  have hsize : 0 < r.stores.size := Nat.zero_lt_of_lt he
  have hrel : Option.Rel _ (execute host budget _ data extra w r) _ :=
    (e.rendersAs_setPolicy p q).execute_unlimited rfl rfl hsize budget hw extra
  refine ⟨e.writesErrors_setPolicy, ?_⟩
  refine rel_mono (fun x y hxy ↦ ⟨hxy.verdict, hxy.resources, fun hpq ↦ ?_, fun hp hq ↦ ?_⟩) hrel
  · rw [hpq] at hxy
    exact hxy.writer_eq
  · rw [hp, hq] at hxy
    exact hxy.tells

/-- An executor of a template that writes a text, and then fails since no function has a name. -/
private def halting : Executor :=
  let tree : Tree := .ofNodes "t" [.text ⟨0, 0⟩ "A", .action ⟨0, 0⟩ (.ofForms [[.identifier "f"]])]
  root (.empty "t") ⟨"t", some tree, .empty⟩ 0

/-- A render that writes a text and fails: under the one policy the text of the error follows,
under the other nothing. -/
theorem execute_setPolicy_halting :
    Option.Rel (fun x y ↦ x.verdict = y.verdict ∧ x.resources = y.resources ∧ x.Tells y)
        ((halting.setPolicy .force).execute .empty 4 .invalid [] .unlimited (.ofStores 1))
        ((halting.setPolicy .inherit).execute .empty 4 .invalid [] .unlimited (.ofStores 1)) ∧
      ((halting.setPolicy .inherit).execute .empty 4 .invalid [] .unlimited (.ofStores 1)).map
        (fun x ↦ x.writer.written) = some "A".toUTF8 := by
  obtain ⟨hwrites, h⟩ := execute_setPolicy (e := halting) (r := .ofStores 1) (w := .unlimited)
    (by decide) rfl .empty 4 .invalid [] .force .inherit
  refine ⟨rel_mono (fun x y hxy ↦ ?_) h, by decide +kernel⟩
  exact ⟨hxy.1, hxy.2.1, hxy.2.2.2 (hwrites _) (hwrites _)⟩

end Executor

end TextTemplate
