import TextTemplate.Host.Script
import TextTemplate.Proofs.Callback

/-!
# Uses of handles

A handle is a number, that of the block in the stack of active blocks. An invocation walks the
body of a callback only while that is open in the running render, but a handle that is kept after
its callback has returned names the next callback that gets the same number.
-/

set_option autoImplicit false

namespace TextTemplate

variable {host : Host} {e : Executor} {tree : Tree} {data : Value} {w : Writer} {r : Resources}

/-- The use of the handle of a callback is sound if it walks the body of the callback, and that
only while the callback is open in the running render, and if it else fails and changes nothing. -/
structure SoundUse (host : Host) (c : Callback) (i : Invocation) : Prop where
  walks : ∀ task u, (i.run host).Asks host task u →
    c.IsOpen i.below ∧ task = .walk c.body i.dot
  fails : ¬ c.IsOpen i.below →
    i.run host = .done (.error (.new "callback is no longer active"), i.state)

/-- A callback that is open and whose variables are there is run. -/
theorem Invocation.asks_of_isOpen {c : Callback} {i : Invocation}
    (used : Moment host (e.request tree data w r) i.moment) (hc : c.IsOpen i.below)
    (hn : c.handle = i.handle) (hv : c.state.vars.length + 3 ≤ i.state.vars.length) :
    ∃ u, (i.run host).Asks host (.walk c.body i.dot) u := by
  obtain ⟨b, hf, hb⟩ := block?_of_isOpen used hc hn
  have hbody : b.body = c.body := congrArg Block.body hf
  rw [if_pos hv] at hb
  rw [← hbody]
  exact ⟨_, asks_iff.mpr ⟨b, hb, rfl, rfl⟩⟩

/-- An invocation that finds a block runs a callback that is open, and whose variables are there. -/
theorem Invocation.isOpen_of_block? {i : Invocation} {b : Block}
    (used : Moment host (e.request tree data w r) i.moment) (hb : i.block? = some b) :
    ∃ o : Callback, o.IsOpen i.below ∧ o.handle = i.handle ∧ o.body = b.body ∧
      o.state.vars.length + 3 ≤ i.state.vars.length := by
  obtain ⟨o, ho, hn, hf⟩ := exists_callback used hb
  have hbase : o.state.vars.length = b.base := congrArg Block.base hf
  exact ⟨o, ho, hn, congrArg Block.body hf, hbase ▸ (Walk.activeBlock?_some hb).2⟩

/-! ### A handle that is kept too long -/

/-- A host with a function that keeps its handle and one that runs the handle that is kept. -/
def keptHost : Host := ScriptedHost.host ⟨#[.keep, .invokeKept], #[]⟩

/-- The executor of a template with the two functions. -/
def keptExecutor (set : TemplateSet) (tree : Tree) : Executor :=
  (Executor.root set ⟨"t", some tree, .empty⟩ 0).withScope
    ⟨[[("keep", .direct (ScriptedHost.function .keep 0 (.atLeast 0) [] none)),
      ("invoke_kept", .direct (ScriptedHost.function .invokeKept 1 (.atLeast 0) [] none))]]⟩ 0

/-- The request of the render of a template with the two functions. -/
def keptRequest (set : TemplateSet) (tree : Tree) : Request :=
  (keptExecutor set tree).request tree .invalid .unlimited (ScriptedHost.resources.newStore).2

/-- A template with two callbacks, of the function that keeps its handle and of the one that runs
the handle that is kept. -/
def twiceTree : Tree :=
  .ofNodes "t" [.callback [[.identifier "keep"]] [.text ⟨0, 0⟩ "A"],
    .callback [[.identifier "invoke_kept"]] [.text ⟨0, 0⟩ "B"]]

/-- The request of the render of the template with the two callbacks. -/
def twiceRequest : Request := keptRequest (.empty "t") twiceTree

private theorem twice_issued : ∃ call dot u,
    Moment keptHost twiceRequest
      [(.callback call [.text ⟨0, 0⟩ "A"] dot, u), twiceRequest] ∧ u.blocks = [] :=
  ⟨_, _, _, .ask .start (.first rfl), rfl⟩

private theorem twice_used : ∃ call dot u d args s v,
    Moment keptHost twiceRequest
      [(.invoke 0 d args, s), (.callback call [.text ⟨0, 0⟩ "B"] dot, u), twiceRequest] ∧
    (Walk.start keptHost (.invoke 0 d args) s).Asks keptHost (.walk [.text ⟨0, 0⟩ "B"] d) v ∧
    u.blocks = [] :=
  ⟨_, _, _, _, _, _, _, .ask (.ask .start (.after rfl (.value rfl) (.first rfl))) (.first rfl),
    .first rfl, rfl⟩

/-- The handle of the first callback, which has returned, runs the body of the second one. -/
theorem not_soundUse_twice : ∃ (c : Callback) (i : Invocation),
    Moment keptHost twiceRequest c.moment ∧ Moment keptHost twiceRequest i.moment ∧
      i.handle = c.handle ∧ ¬ c.IsOpen i.below ∧ ¬ SoundUse keptHost c i := by
  obtain ⟨call, dot, u, issued, hu⟩ := twice_issued
  obtain ⟨call', dot', u', d, args, s, v, used, hasks, -⟩ := twice_used
  let c : Callback := ⟨call, [.text ⟨0, 0⟩ "A"], dot, u, [twiceRequest]⟩
  let i : Invocation :=
    ⟨0, d, args, s, [(.callback call' [.text ⟨0, 0⟩ "B"] dot', u'), twiceRequest]⟩
  have hclosed : ¬ c.IsOpen i.below := by
    rintro ⟨above, ha, -⟩
    cases above with
    | nil => simp [c, i, Callback.moment] at ha
    | cons _ above => simpa [c, i, Callback.moment] using congrArg List.length ha
  have hhandle : i.handle = c.handle := by
    rw [Callback.handle, hu]
    rfl
  refine ⟨c, i, issued, used, hhandle, hclosed, ?_⟩
  intro hs
  exact hclosed (hs.walks _ v hasks).1

/-! ### Sound uses -/

section

variable {c : Callback} {i : Invocation}

/-- The use of the handle of a callback that is open in the running render is sound. -/
theorem SoundUse.of_isOpen (used : Moment host (e.request tree data w r) i.moment)
    (hc : c.IsOpen i.below) (hh : i.handle = c.handle) : SoundUse host c i where
  walks task u ha := by
    obtain ⟨b, hb, rfl, -⟩ := Invocation.asks_iff.mp ha
    obtain ⟨b', hf, hb'⟩ := Invocation.block?_of_isOpen used hc hh.symm
    have hbb : b = b' := by
      rw [hb] at hb'
      split at hb'
      · exact Option.some.inj hb'
      · cases hb'
    have hbody : b'.body = c.body := congrArg Block.body hf
    rw [hbb, hbody]
    exact ⟨hc, rfl⟩
  fails hn := absurd hc hn

/-- A use that finds no block is sound. -/
theorem SoundUse.of_none (h : i.block? = none) : SoundUse host c i where
  walks task u ha := by
    obtain ⟨b, hb, -⟩ := Invocation.asks_iff.mp ha
    rw [h] at hb
    cases hb
  fails _ := Invocation.run_none h

/-- An invocation walks the body of a callback that is open in the running render and has the
number that the handle is. The use of the handle of a callback is sound exactly if that callback
is itself open in the running render, or no other one with its number can be run there. -/
theorem soundUse_iff (used : Moment host (e.request tree data w r) i.moment)
    (hh : i.handle = c.handle) :
    (∀ task u, (i.run host).Asks host task u →
      ∃ o : Callback, o.IsOpen i.below ∧ o.handle = i.handle ∧ task = .walk o.body i.dot) ∧
    (SoundUse host c i ↔ c.IsOpen i.below ∨
      ∀ o : Callback, o.IsOpen i.below → o.handle = c.handle →
        i.state.vars.length < o.state.vars.length + 3) := by
  refine ⟨?_, ?_, ?_⟩
  · intro task u ha
    obtain ⟨b, hb, rfl, -⟩ := Invocation.asks_iff.mp ha
    obtain ⟨o, ho, hn, hbody, -⟩ := Invocation.isOpen_of_block? used hb
    rw [← hbody]
    exact ⟨o, ho, hn, rfl⟩
  · intro hs
    by_cases hc : c.IsOpen i.below
    · exact .inl hc
    · right
      intro o ho hn
      apply Nat.lt_of_not_le
      intro hv
      -- the other callback would be run, though it is not the one of the handle
      obtain ⟨u, ha⟩ := Invocation.asks_of_isOpen used ho (hn.trans hh.symm) hv
      exact hc (hs.walks _ u ha).1
  · intro h
    rcases h with hc | ho
    · exact .of_isOpen used hc hh
    · apply SoundUse.of_none
      cases hb : i.block? with
      | none => rfl
      | some b =>
        obtain ⟨o, hop, hn, -, hv⟩ := Invocation.isOpen_of_block? used hb
        have hlt := ho o hop (hn.trans hh)
        omega

end

/-- The second callback runs its own body by the same number. -/
theorem soundUse_twice : ∃ (c : Callback) (i : Invocation),
    Moment keptHost twiceRequest i.moment ∧ i.handle = c.handle ∧ c.body = [.text ⟨0, 0⟩ "B"] ∧
      SoundUse keptHost c i := by
  obtain ⟨call, dot, u, d, args, s, v, used, -, hu⟩ := twice_used
  have hh : 0 = Callback.handle ⟨call, [.text ⟨0, 0⟩ "B"], dot, u, [twiceRequest]⟩ := by
    rw [Callback.handle, hu]
    rfl
  refine ⟨_, ⟨0, d, args, s, _⟩, used, hh, rfl, ?_⟩
  apply (soundUse_iff used hh).2.mpr
  exact .inl ⟨[], rfl, List.forall_mem_nil _⟩

end TextTemplate
