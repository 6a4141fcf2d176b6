import TextTemplate.Proofs.Composition
import TextTemplate.Proofs.Denotation
import TextTemplate.Proofs.Validity

/-!
# Output grows

A render takes back nothing of what has reached its writer: every step adds bytes, valid ones where
nothing limits the writer (`State.Grows`). A step that is composed advances between its requests: it
adds output, and it changes no active block (`Walk.Composed.advances`). So a whole task adds output,
however it ends (`Walk.start_advances`, `Run.Advances.of_ends`).
-/

set_option autoImplicit false

namespace TextTemplate

variable {α β : Type} {host : Host}

/-- A changed stack has the entries that it had, and a changed one. -/
theorem Stack.mem_modify {stack : List α} {n : Nat} {f : α → α} {a : α}
    (h : a ∈ Stack.modify stack n f) : a ∈ stack ∨ ∃ b ∈ stack, a = f b := by
  rw [Stack.modify, List.mem_reverse, List.mem_iff_getElem?] at h
  obtain ⟨i, hi⟩ := h
  rw [List.getElem?_modify] at hi
  obtain ⟨b, hb, rfl⟩ := Option.map_eq_some_iff.mp hi
  have hm : b ∈ stack := List.mem_reverse.mp (List.mem_of_getElem? hb)
  split
  · exact .inr ⟨b, hm, rfl⟩
  · exact .inl hm

private theorem Sink.mem_popBuffer {sink : Sink} {sinks : List Sink}
    (h : sink ∈ (popBuffer sinks).2) : sink ∈ sinks := by
  cases sinks with
  | nil => exact h
  | cons top rest =>
    cases top with
    | buffer held => exact List.mem_cons_of_mem _ h
    | wrap w => exact h

/-- A sink holds valid bytes. -/
def Sink.IsValid : Sink → Prop
  | .buffer held => held.IsValidUTF8
  | .wrap w => w.pending.IsValidUTF8

/-- The sinks of a state hold valid bytes. -/
def State.HoldsText (s : State) : Prop := ∀ sink ∈ s.sinks, sink.IsValid

/-- A writer has what another one has, and more that is valid unless the writer is limited. -/
structure Writer.Grows (w w' : Writer) : Prop where
  written : ∃ bytes, w'.written = w.written ++ bytes ∧
    (w.capacity = none → bytes.IsValidUTF8)
  capacity : w'.capacity = w.capacity

namespace Writer.Grows

variable {a b c : Writer}

private theorem refl (w : Writer) : w.Grows w :=
  ⟨⟨.empty, ByteArray.append_empty.symm, fun _ ↦ ByteArray.isValidUTF8_empty⟩, rfl⟩

/-- Growth from one writer to the next adds up. -/
theorem trans (h : a.Grows b) (k : b.Grows c) : a.Grows c := by
  obtain ⟨⟨x, hx, hvx⟩, hc⟩ := h
  obtain ⟨⟨y, hy, hvy⟩, hc'⟩ := k
  refine ⟨⟨x ++ y, ?_, ?_⟩, hc'.trans hc⟩
  · rw [hy, hx, ByteArray.append_assoc]
  · intro ha
    exact (hvx ha).append (hvy (hc.trans ha))

/-- What a writer was given at the start of a render without a limit is valid. -/
theorem isValid (h : Writer.unlimited.Grows a) : a.written.IsValidUTF8 := by
  obtain ⟨bytes, hw, hv⟩ := h.written
  rw [hw]
  exact ByteArray.isValidUTF8_empty.append (hv rfl)

end Writer.Grows

private theorem Writer.grows_write (w : Writer) {bytes : ByteArray} (h : bytes.IsValidUTF8) :
    w.Grows (w.write bytes).1 := by
  obtain ⟨written, capacity⟩ := w
  cases capacity with
  | none => exact ⟨⟨bytes, rfl, fun _ ↦ h⟩, rfl⟩
  | some c =>
    -- of a limited writer nothing is said
    have limited {x : ByteArray} (hn : some c = none) : x.IsValidUTF8 := by cases hn
    rw [write]
    dsimp only
    split
    · exact ⟨⟨bytes, rfl, limited⟩, rfl⟩
    · exact ⟨⟨_, rfl, limited⟩, rfl⟩

/-- A state comes after another one in the same render: its output has grown. -/
abbrev State.Grows (s t : State) : Prop := s.writer.Grows t.writer

/-- A state comes after another one, and has the same active blocks. -/
structure State.Advances (s t : State) : Prop where
  grows : s.Grows t
  blocks : t.blocks = s.blocks

namespace State.Advances

variable {s t u : State}

private theorem refl (s : State) : s.Advances s := ⟨.refl _, rfl⟩

private theorem trans (h : s.Advances t) (k : t.Advances u) : s.Advances u :=
  ⟨h.grows.trans k.grows, k.blocks.trans h.blocks⟩

end State.Advances

/-- What is known of the reply to a request. -/
structure State.Answered (host : Host) (u : State) (r : Reply) : Prop where
  text : r.2.HoldsText
  grows : u.Grows r.2
  answers : Answers host u r

/-- A run advances from one request to the next, starting from a state and going on from the reply
to each request; what happens in other renders does not count. It ends as stated with regard to the
state from which it went on last. -/
def Run.Advances (host : Host) (ends : State → α → Prop) : Run α → State → Prop
  | .done a, s => ends s a
  | .ask task u next, s =>
    u.HoldsText ∧ (task.isRender = false → s.Advances u) ∧
      ∀ r, u.Answered host r → (next r).Advances host ends (if task.isRender then s else r.2)

/-- The end of a step that advances. -/
def State.Reaches (s : State) (r : Outcome α × State) : Prop := r.2.HoldsText ∧ s.Advances r.2

private theorem State.Advances.reaches {s t : State} (h : s.Advances t) (r : Outcome α × State)
    (k : t.Reaches r) : s.Reaches r :=
  ⟨k.1, h.trans k.2⟩

/-- A step advances between its requests. -/
def Walk.Advances (host : Host) (m : Walk α) : Prop :=
  ∀ s, s.HoldsText → (m s).Advances host State.Reaches s

namespace Run.Advances

variable {s t : State}

private theorem bind {ends : State → α → Prop} {ends' : State → β → Prop} {x : Run α}
    {f : α → Run β}
    (h : x.Advances host ends s) (hf : ∀ t a, ends t a → (f a).Advances host ends' t) :
    (x.bind f).Advances host ends' s := by
  induction x generalizing s with
  | done a => exact hf s a h
  | ask task u next ih =>
    refine ⟨h.1, h.2.1, ?_⟩
    intro r hr
    exact ih r (h.2.2 r hr)

private theorem mono {ends ends' : State → α → Prop} {x : Run α} (h : x.Advances host ends s)
    (he : ∀ t a, ends t a → ends' t a) : x.Advances host ends' s := by
  have hb := h.bind (f := Run.done) he
  rwa [Run.bind_done] at hb

/-- A run that advances from a state advances from one before it. -/
theorem since {ends : State → α → Prop} {x : Run α} (h : x.Advances host ends t) (hs : s.Advances t)
    (he : ∀ a, ends t a → ends s a) : x.Advances host ends s := by
  induction x with
  | done a => exact he a h
  | ask task u next ih =>
    refine ⟨h.1, fun hr ↦ hs.trans (h.2.1 hr), ?_⟩
    intro r hr
    have hn := h.2.2 r hr
    cases hrender : task.isRender with
    | true =>
      rw [hrender] at hn
      exact ih r hn
    | false =>
      rw [hrender] at hn
      exact hn

end Run.Advances

namespace Walk.Advances

variable {m : Walk α}

/-! ### Steps that leave the output alone -/

private theorem pure (a : α) : (Pure.pure a : Walk α).Advances host := fun s hs ↦ ⟨hs, .refl s⟩

private theorem fail (e : EvalError) :
    (Walk.fail e : Walk α).Advances host :=
  fun s hs ↦ ⟨hs, .refl s⟩

private theorem ofExcept (x : Except EvalError α) : (Walk.ofExcept x).Advances host := by
  cases x with
  | ok a => exact pure a
  | error e => exact fail e

private theorem read (f : State → α) : (Walk.read f).Advances host := fun s hs ↦ ⟨hs, .refl s⟩

private theorem modify {f : State → State} (hf : ∀ s : State, s.HoldsText → (f s).HoldsText)
    (ha : ∀ s : State, s.Advances (f s)) : (Walk.modify f).Advances host :=
  fun s hs ↦ ⟨hf s hs, ha s⟩

/-- The sinks may be changed into others that hold valid bytes. -/
theorem modifySinks {f : State → List Sink}
    (hf : ∀ s : State, s.HoldsText → ∀ sink ∈ f s, sink.IsValid) :
    (Walk.modify fun s ↦ { s with sinks := f s }).Advances host :=
  modify hf fun s ↦ ⟨.refl s.writer, rfl⟩

private theorem inner {f : State → State} (hf : State.Inner f) : (Walk.modify f).Advances host := by
  apply modify
  · intro s hs
    rw [State.HoldsText, hf.sinks]
    exact hs
  · intro s
    refine ⟨?_, hf.blocks s⟩
    rw [State.Grows, hf.writer]
    exact .refl _

private theorem ended (f : Resources → Ended α) : (Walk.ended f).Advances host := by
  intro s hs
  rw [Walk.ended]
  cases f s.resources with
  | mk o r => exact ⟨hs, .refl s.writer, rfl⟩

private theorem ask {task : Task} (h : task.isRender = false) : (Walk.ask task).Advances host := by
  intro s hs
  refine ⟨hs, fun _ ↦ .refl s, ?_⟩
  intro r hr
  rw [h]
  exact ⟨hr.text, .refl _⟩

private theorem bind {f : α → Walk β} (hm : m.Advances host) (hf : ∀ a, (f a).Advances host) :
    (m >>= f).Advances host := by
  intro s hs
  rw [bind_run]
  apply (hm s hs).bind
  rintro t ⟨o, u⟩ ⟨hu, ht⟩
  cases o with
  | ok a => exact (hf a u hu).since ht ht.reaches
  | error e => exact ⟨hu, ht⟩
  | panic message => exact ⟨hu, ht⟩

/-- What a step reads is what some state holds. -/
theorem read_bind {f : State → α} {k : α → Walk β}
    (h : ∀ s : State, s.HoldsText → (k (f s)).Advances host) : (Walk.read f >>= k).Advances host :=
  fun s hs ↦ h s hs s hs

private theorem attempt (hm : m.Advances host) : m.attempt.Advances host := by
  intro s hs
  apply (hm s hs).bind
  rintro t ⟨o, u⟩ hu
  cases o with
  | ok a => exact hu
  | error e => exact hu
  | panic message => exact hu

private theorem mapError {f : State → EvalError → EvalError} (hm : m.Advances host) :
    (m.mapError f).Advances host := by
  intro s hs
  apply (hm s hs).bind
  rintro t ⟨o, u⟩ hu
  cases o with
  | ok a => exact hu
  | error e => exact hu
  | panic message => exact hu

private theorem after {f : State → State} (hm : m.Advances host)
    (hf : (Walk.modify f).Advances host) : (m.after f).Advances host :=
  bind (attempt hm) fun result ↦ bind hf fun _ ↦ ofExcept result

private theorem inScope (hm : m.Advances host) : (Walk.inScope m).Advances host :=
  read_bind fun _ _ ↦ after hm (inner ⟨fun _ _ _ ↦ rfl, fun _ ↦ rfl⟩)

private theorem perform {task : Task} (h : task.isRender = false) :
    (Walk.perform task).Advances host :=
  bind (ask h) fun _ ↦ pure ()

/-! ### Output -/

/-- A step that looks at a sink finds valid bytes in it. -/
theorem sinkAt_bind {n : Nat} {k : Sink → Walk α}
    (h : ∀ sink, sink.IsValid → (k sink).Advances host) :
    (Walk.sinkAt n >>= k).Advances host := by
  intro s hs
  rw [bind_run, Walk.sinkAt]
  cases hsink : Stack.get? s.sinks n with
  | none => exact ⟨hs, .refl s⟩
  | some sink => exact h sink (hs sink (Stack.mem_of_get? hsink)) s hs

/-- One sink may be changed into another one that holds valid bytes. -/
theorem modifySink {n : Nat} {f : Sink → Sink} (hf : ∀ sink, sink.IsValid → (f sink).IsValid) :
    (Walk.modify fun s ↦ { s with sinks := Stack.modify s.sinks n f }).Advances host := by
  apply modifySinks
  intro s hs sink hm
  obtain hm | ⟨other, ho, rfl⟩ := Stack.mem_modify hm
  · exact hs sink hm
  · exact hf other (hs other ho)

private theorem truncateSinks (level : Nat) :
    (Walk.modify (State.truncateSinks level)).Advances host :=
  modifySinks fun _ hs sink hm ↦ hs sink (List.mem_of_mem_drop hm)

private theorem below (level : Nat) (nodes : List Node) (dot : Value) :
    (Walk.below level nodes dot).Advances host := by
  apply read_bind
  intro s hs
  apply bind (truncateSinks level)
  intro _
  apply after (inScope (perform rfl))
  apply modify
  · intro u hu sink hm
    obtain hm | hm := List.mem_append.mp hm
    · exact hs sink (List.mem_of_mem_take hm)
    · exact hu sink (List.mem_of_mem_drop hm)
  · exact fun u ↦ ⟨.refl u.writer, rfl⟩

private theorem writeBottom {bytes : ByteArray} (hb : bytes.IsValidUTF8) :
    (Walk.writeBottom bytes).Advances host := by
  intro s hs
  have hw := s.writer.grows_write hb
  rw [Walk.writeBottom]
  split
  · next w hr =>
    rw [hr] at hw
    exact ⟨hs, hw, rfl⟩
  · next w fault hr =>
    rw [hr] at hw
    exact ⟨hs, hw, rfl⟩

private theorem writeLevel {bytes : ByteArray} (hb : bytes.IsValidUTF8) (level : Nat) :
    (Walk.writeLevel level bytes).Advances host := by
  induction level generalizing bytes with
  | zero => exact writeBottom hb
  | succ level ih =>
    apply sinkAt_bind
    intro sink hsink
    cases sink with
    | buffer held =>
      apply modifySink
      intro sink hs
      cases sink with
      | buffer held => exact hs.append hb
      | wrap w => exact hs
    | wrap w =>
      dsimp only
      split
      · exact ih hb
      · rw [w.receive_eq]
        split
        · apply bind (modifySink (f := fun _ ↦ .wrap w.opened) fun _ _ ↦
            ByteArray.isValidUTF8_empty)
          intro _
          have content := ih (WrapSink.isValidUTF8_collect hsink hb)
          dsimp only
          split
          · exact bind (below _ _ _) fun _ ↦ content
          · exact bind (pure ()) fun _ ↦ content
        · have held := WrapSink.isValidUTF8_collect hsink hb
          exact bind (modifySink (f := fun _ ↦ .wrap (w.holding (w.collect bytes)))
            fun _ _ ↦ held) fun _ ↦ pure ()

private theorem write {bytes : ByteArray} (hb : bytes.IsValidUTF8) :
    (Walk.write bytes).Advances host := by
  rw [Walk.write]
  split
  · exact pure ()
  · exact read_bind fun _ _ ↦ writeLevel hb _

private theorem capture {m : Walk Unit} (hm : m.Advances host) :
    (Walk.capture m).Advances host := by
  apply read_bind
  intro s _
  apply bind
  · apply modifySinks
    intro u hu
    exact List.forall_mem_cons.mpr ⟨ByteArray.isValidUTF8_empty, hu⟩
  intro _
  apply bind (attempt hm)
  intro result
  apply bind (truncateSinks _)
  intro _
  apply bind (read _)
  intro bytes
  apply bind
  · apply modifySinks
    exact fun u hu sink hs ↦ hu sink (Sink.mem_popBuffer hs)
  intro _
  exact ofExcept _

private theorem watch {strip : Bool} {before : Option (List Node)} {dot : Value}
    {k : Except EvalError α → Bool → Walk β} (hm : m.Advances host)
    (hk : ∀ result triggered, (k result triggered).Advances host) :
    (Walk.watch (.fresh strip before dot) m k).Advances host := by
  apply read_bind
  intro s _
  apply bind
  · apply modifySinks
    intro u hu
    exact List.forall_mem_cons.mpr ⟨ByteArray.isValidUTF8_empty, hu⟩
  intro _
  apply bind (attempt hm)
  intro result
  apply bind (truncateSinks _)
  intro _
  apply bind (read _)
  intro triggered
  apply bind
  · exact modifySinks fun u hu sink hs ↦ hu sink (List.mem_of_mem_tail hs)
  intro _
  exact hk result triggered

end Walk.Advances

/-! ### Other renders -/

/-- A state without sinks holds valid bytes. -/
theorem State.holdsText_of_nil {s : State} (h : s.sinks = []) : s.HoldsText := by
  rw [HoldsText, h]
  exact List.forall_mem_nil _

/-- A nested render begins without sinks. -/
@[simp] theorem Walk.sinks_nestedState (s : State) (template : Template) (data : Value) :
    (nestedState s template data).sinks = [] := by
  simp only [nestedState]
  split
  · rfl
  · rfl

/-- A nested render begins with a writer that takes everything. -/
@[simp] theorem Walk.writer_nestedState (s : State) (template : Template) (data : Value) :
    (nestedState s template data).writer = .unlimited := by
  simp only [nestedState]
  split
  · rfl
  · rfl

/-- What another render gives is valid, and nothing of it has reached the output. -/
theorem Walk.renderNested_reaches (name : String) (data : Value) {s : State} (hs : s.HoldsText) :
    (renderNested name data s).Advances host (fun t r ↦ t.Reaches r ∧
      ∀ bytes, r.1 = .ok bytes → bytes.IsValidUTF8) s := by
  have back {o : Outcome ByteArray} (r : Resources)
      (ho : ∀ bytes, o = .ok bytes → bytes.IsValidUTF8) :
      s.Reaches (o, { s with resources := r }) ∧ ∀ bytes, o = .ok bytes → bytes.IsValidUTF8 :=
    ⟨⟨hs, .refl _, rfl⟩, ho⟩
  rw [renderNested]
  split
  · exact back s.resources fun _ h ↦ by cases h
  · next template _ =>
    dsimp only
    split
    · exact back _ fun _ h ↦ by cases h
    · refine ⟨State.holdsText_of_nil (sinks_nestedState ..), (fun h ↦ by cases h), ?_⟩
      rintro ⟨o, inner⟩ hr
      have hg : (nestedState s template data).Grows inner := hr.grows
      rw [State.Grows, writer_nestedState] at hg
      cases o with
      | ok v =>
        apply back inner.resources
        rintro bytes ⟨⟩
        exact hg.isValid
      | error e => exact back _ fun _ h ↦ by cases h
      | panic message => exact back _ fun _ h ↦ by cases h

/-- What is composed advances. -/
theorem Walk.Composed.advances {m : Walk α} (h : Composed host m) : m.Advances host := by
  induction h with
  | pure a => exact .pure a
  | fail e => exact .fail e
  | read => exact .read _
  | modify hf => exact .inner hf
  | ended f => exact .ended f
  | ask ht => exact .ask ht
  | text s => exact .write s.isValidUTF8
  | render name data =>
    intro s hs
    exact (renderNested_reaches name data hs).mono fun _ _ h ↦ h.1
  | yield name data =>
    intro s hs
    apply (renderNested_reaches name data hs).bind
    rintro t ⟨o, u⟩ ⟨⟨hu, ht⟩, hv⟩
    cases o with
    | ok bytes => exact (Advances.write (hv bytes rfl) u hu).since ht ht.reaches
    | error e => exact ⟨hu, ht⟩
    | panic message => exact ⟨hu, ht⟩
  | capture _ ih => exact .capture ih
  | watch _ _ ih ihk => exact .watch ih ihk
  | bind _ _ ih ihf => exact .bind ih ihf
  | attempt _ ih => exact .attempt ih
  | after _ hf ih => exact .after ih (.inner hf)
  | mapError _ _ ih => exact .mapError ih

/-! ### Tasks -/

/-- The active blocks that a task leaves, by those that were there after its last request: an
invocation that succeeds counts in its block, and a callback that returns closes its own. -/
def Request.leaves : Request → Outcome Value → List Block → List Block
  | (.invoke handle _ _, s), .ok _, blocks =>
    match Walk.activeBlock? s handle with
    | some b => Stack.modify blocks handle fun x ↦ { x with calls := b.calls + 1 }
    | none => blocks
  | (.callback .., _), .ok _, blocks => blocks.tail
  | (.callback .., _), .error _, blocks => blocks.tail
  | _, _, blocks => blocks

/-- An invocation that gives a value counts as one more call of its block. -/
theorem Request.leaves_invoke {handle : Nat} {dot v : Value} {args : List Value} {s : State}
    {b : Block} (h : Walk.activeBlock? s handle = some b) (blocks : List Block) :
    Request.leaves (.invoke handle dot args, s) (.ok v) blocks =
      Stack.modify blocks handle fun x ↦ { x with calls := b.calls + 1 } := by
  simp only [leaves, h]

/-- The end of a task, by the state from which it went on last. -/
structure Request.Closes (q : Request) (t : State) (r : Reply) : Prop where
  text : r.2.HoldsText
  grows : t.Grows r.2
  blocks : r.2.blocks = q.leaves r.1 t.blocks

namespace Walk

variable {s : State} {dot : Value}

private theorem setCalls_bind {handle calls : Nat} (k : Unit → Walk α)
    (h : handle < s.blocks.length) : (setCalls handle calls >>= k) s = k ()
      { s with blocks := Stack.modify s.blocks handle fun b => { b with calls := calls } } := by
  rw [bind_run, setCalls, changeAt, if_pos h]
  rfl

/-- The walk of the body of a block, and the count after it. -/
theorem runBody_advances {handle : Nat} {b : Block} {args : List Value}
    (hb : activeBlock? s handle = some b) (hs : s.HoldsText) :
    (runBody handle b dot (s.withArguments b args)).Advances host
      (fun t r ↦ Request.Closes (.invoke handle dot args, s) t (r.1.map fun _ ↦ .invalid, r.2))
      s := by
  obtain ⟨hg, hlen⟩ := activeBlock?_some hb
  refine ⟨hs, fun _ ↦ ⟨.refl s.writer, rfl⟩, ?_⟩
  rintro ⟨o, u⟩ hr
  cases o with
  | ok v =>
    have level : Level host (s.withArguments b args) u := hr.answers
    have hblocks : handle < u.blocks.length := by
      rw [level.length_blocks]
      exact Stack.get?_lt hg
    have hvars : b.base < (u.vars.take (s.withArguments b args).vars.length).length := by
      have hle := level.length_vars
      have hargs : (s.withArguments b args).vars.length = s.vars.length := by
        simp [State.withArguments]
      rw [List.length_take]
      omega
    show ((setCalls handle (b.calls + 1) >>= fun _ ↦ setVariable b.base (.ofNat (b.calls + 1)))
      { u.truncateSinks (s.withArguments b args).sinks.length with
        vars := u.vars.take (s.withArguments b args).vars.length
        place := (s.withArguments b args).place }).Advances host _ u
    rw [setCalls_bind _ (by exact hblocks), setVariable, changeAt, if_pos hvars]
    exact ⟨fun sink hm ↦ hr.text sink (List.mem_of_mem_drop hm), .refl _,
      (Request.leaves_invoke hb _).symm⟩
  | error e => exact ⟨fun sink hm ↦ hr.text sink (List.mem_of_mem_drop hm), .refl _, rfl⟩
  | panic message => exact ⟨hr.text, .refl _, rfl⟩

/-- A task advances between its requests, from the state in which it does what it asks for, and then
closes. -/
theorem start_advances (task : Task) (hs : s.HoldsText) :
    (start host task s).Advances host (Request.Closes (task, s)) (Request.opened (task, s)) := by
  have composed (hb : task.isBlock = false) (ho : Request.opened (task, s) = s)
      (hl : ∀ o blocks, Request.leaves (task, s) o blocks = blocks) :
      (start host task s).Advances host (Request.Closes (task, s)) (Request.opened (task, s)) := by
    rw [ho]
    apply ((start_composed hb).advances s hs).mono
    intro t r hr
    exact ⟨hr.1, hr.2.grows, by rw [hl, hr.2.blocks]⟩
  cases task with
  | walk | enter | render | call => exact composed rfl rfl fun _ _ ↦ rfl
  | invoke handle dot args =>
    cases hb : activeBlock? s handle with
    | none =>
      rw [start, bind_run, invokeBlock, read_bind, hb]
      exact ⟨hs, .refl _, rfl⟩
    | some b =>
      rw [start, bind_run, invokeBlock_some args hb]
      apply (runBody_advances hb hs).bind
      rintro t ⟨o, u⟩ hu
      cases o with
      | ok _ | error _ | panic _ => exact hu
  | callback call body dot =>
    rw [start, callWithBlock, read_bind, modify_bind, after, bind_run, attempt, Run.bind_assoc]
    apply ((blockCall_evalWith_made _ call).composed.advances (openBlock body s) hs).bind
    rintro t ⟨o, u⟩ hu
    have hblocks := hu.2.blocks
    cases o with
    | ok v => exact ⟨hu.1, hu.2.grows, congrArg List.tail hblocks⟩
    | error e => exact ⟨hu.1, hu.2.grows, congrArg List.tail hblocks⟩
    | panic message => exact ⟨hu.1, hu.2.grows, hblocks⟩

end Walk

/-! ### Whole runs -/

/-- To open a block changes no output. -/
theorem Request.writer_opened (r : Request) : r.opened.writer = r.2.writer := by
  obtain ⟨task, s⟩ := r
  cases task <;> rfl

/-- What a run adds to the output up to its end, if the replies to its requests are as assumed. -/
theorem Run.Advances.of_ends {ends : State → α → Prop} {x : Run α} {a : α} {s : State}
    (h : x.Advances host ends s) (hx : x.Ends host a) : ∃ t, s.Grows t ∧ ends t a := by
  induction hx generalizing s with
  | done a => exact ⟨s, .refl _, h⟩
  | @ask _ task u next r a hr _ ihr iha =>
    obtain ⟨hu, hs, hn⟩ := h
    obtain ⟨t, ht, hclose⟩ := ihr (Walk.start_advances task hu)
    rw [State.Grows, Request.writer_opened] at ht
    have hgrows : u.Grows r.2 := ht.trans hclose.grows
    have answers : Answers host u r := (Walk.start_meets task u).ends Walk.start_meets hr
    obtain ⟨t', ht', ha⟩ := iha (hn r ⟨hclose.text, hgrows, answers⟩)
    refine ⟨t', ?_, ha⟩
    cases hrender : task.isRender with
    | true =>
      rw [hrender] at ht'
      exact ht'
    | false =>
      rw [hrender] at ht'
      exact ((hs hrender).grows.trans hgrows).trans ht'

/-- A task adds to the output, however it ends. -/
theorem Walk.start_answered {task : Task} {u : State} {r : Reply} (hu : u.HoldsText)
    (h : (start host task u).Ends host r) : u.Answered host r := by
  obtain ⟨t, ht, hclose⟩ := (start_advances task hu).of_ends h
  rw [State.Grows, Request.writer_opened] at ht
  exact ⟨hclose.text, ht.trans hclose.grows, (start_meets task u).ends start_meets h⟩

/-- What is composed adds to the output, however it ends. -/
theorem Walk.Composed.adds {m : Walk α} (h : Composed host m) {s : State}
    {r : Outcome α × State} (hs : s.HoldsText) (hr : (m s).Ends host r) :
    r.2.HoldsText ∧ s.Grows r.2 := by
  obtain ⟨t, ht, hr⟩ := (h.advances s hs).of_ends hr
  exact ⟨hr.1, ht.trans hr.2.grows⟩

namespace Run.Advances

variable {ends : State → α → Prop} {x : Run α} {a : α} {s u : State} {task : Task}

private theorem holdsText_of_asks (h : x.Advances host ends s) (hx : x.Asks host task u) :
    u.HoldsText := by
  induction hx generalizing s with
  | now => exact h.1
  | later hr _ ih => exact ih (h.2.2 _ (Walk.start_answered h.1 hr))

/-- Where a run ends, what it has asked for has ended before, and what was asked for in the same
render has left output that the run has added to. -/
theorem exists_reply (h : x.Advances host ends s) (hx : x.Asks host task u)
    (ha : x.Ends host a) :
    ∃ r, (Walk.start host task u).Ends host r ∧
      (task.isRender = false → ∃ t, r.2.Grows t ∧ ends t a) := by
  induction hx generalizing s with
  | now =>
    cases ha with
    | ask hr hn =>
      have hrest := (h.2.2 _ (Walk.start_answered h.1 hr)).of_ends hn
      refine ⟨_, hr, fun hrender ↦ ?_⟩
      rw [hrender] at hrest
      exact hrest
  | later hr _ ih =>
    cases ha with
    | ask hr' hn =>
      cases hr.unique hr'
      exact ih (h.2.2 _ (Walk.start_answered h.1 hr)) hn

end Run.Advances

/-! ### Moments -/

/-- All states of a render hold text if the first one does. -/
theorem Moment.holdsText {start : Request} {stack : List Request} (h : Moment host start stack)
    (hs : start.2.HoldsText) : ∀ request ∈ stack, request.2.HoldsText := by
  induction h with
  | start => exact List.forall_mem_singleton.mpr hs
  | ask _ ha ih =>
    have parent := ih _ List.mem_cons_self
    exact List.forall_mem_cons.mpr ⟨(Walk.start_advances _ parent).holdsText_of_asks ha, ih⟩

/-- Where a render ends, every task that was open at some moment has ended. What it had written, and
what was written around it in the same render, is kept. -/
theorem Moment.exists_end {start request : Request} {below : List Request} {last : Reply}
    (h : Moment host start (request :: below)) (hs : start.2.HoldsText)
    (hl : (Walk.start host start.1 start.2).Ends host last)
    (hr : ∀ q ∈ request :: below, q.1.isRender = false) :
    ∃ r, (Walk.start host request.1 request.2).Ends host r ∧ r.2.Grows last.2 := by
  generalize hm : request :: below = stack at h hr
  induction h generalizing request below with
  | start =>
    cases hm
    exact ⟨last, hl, .refl _⟩
  | @ask task u rest parent hparent ha ih =>
    cases hm
    rw [List.forall_mem_cons] at hr
    obtain ⟨p, hp, hgrows⟩ := ih rfl hr.2
    have parentText := hparent.holdsText hs parent List.mem_cons_self
    obtain ⟨r, hreply, hrest⟩ := (Walk.start_advances parent.1 parentText).exists_reply ha hp
    obtain ⟨t, ht, hclose⟩ := hrest hr.1
    exact ⟨r, hreply, (ht.trans hclose.grows).trans hgrows⟩

end TextTemplate
