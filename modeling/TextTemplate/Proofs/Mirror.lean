import TextTemplate.Proofs.Composition
import TextTemplate.Proofs.Denotation
import TextTemplate.Proofs.Discipline

/-!
# Runs within a capture

A capture puts a buffer on top of the sinks. What is run then does not see what lies below: it runs
as it would alone, with the buffer in place of an unlimited writer (`Walk.start_mirrored`). So each
run within a capture is the mirror image of one outside of any.
-/

set_option autoImplicit false

namespace TextTemplate

variable {α β : Type} {host : Host} {outside : List Sink} {w : Writer}

/-- Every entry of a stack has entries above it and, in the number that it has, below it. -/
theorem Stack.exists_append_cons {stack : List α} {n : Nat} (h : n < stack.length) :
    ∃ above a rest, stack = above ++ a :: rest ∧ rest.length = n := by
  refine ⟨stack.take (stack.length - (n + 1)), stack[stack.length - (n + 1)],
    stack.drop (stack.length - n), ?_, ?_⟩
  · have hlt : stack.length - (n + 1) < stack.length := by omega
    have hd := List.getElem_cons_drop hlt
    rw [show stack.length - (n + 1) + 1 = stack.length - n by omega] at hd
    rw [hd, List.take_append_drop]
  · rw [List.length_drop]
    omega

/-- Which of the sinks of a state are buffers. -/
def State.kinds (s : State) : List Bool := s.sinks.map Sink.isBuffer

private theorem State.length_kinds (s : State) :
    s.kinds.length = s.sinks.length :=
  List.length_map _

/-- A state within a capture: below its own sinks is a buffer with what it has written, and below
that are the sinks and the writer outside of the capture. -/
def State.within (outside : List Sink) (w : Writer) (t : State) : State :=
  t.redirect (t.sinks ++ .buffer t.writer.written :: outside) w

/-- What a run ends with within a capture, and what it ends with alone, where it leaves the kinds of
sinks that are given if it returns. -/
structure Mirror (outside : List Sink) (w : Writer) (kinds : List Bool)
    (captured alone : Outcome α × State) : Prop where
  outcome : captured.1 = alone.1
  state : captured.2 = alone.2.within outside w
  unlimited : alone.2.writer.capacity = none
  kinds : alone.1.Returned → alone.2.kinds = kinds

/-- One run is within a capture what the other one is alone: it asks for the same, and if it gets
the same replies, it ends with what corresponds to the end of the other one. -/
inductive Run.Paired (outside : List Sink) (w : Writer) (ends : α → α → Prop) :
    Run α → Run α → Prop where
  | done {a b : α} : ends a b → Paired outside w ends (.done a) (.done b)
  | ask {task : Task} {t : State} {next next' : Reply → Run α} :
      task.isRender = false → t.writer.capacity = none →
      (∀ r r', Mirror outside w t.kinds r r' → Paired outside w ends (next r) (next' r')) →
        Paired outside w ends (.ask task (t.within outside w) next) (.ask task t next')
  | render {task : Task} {t : State} {next next' : Reply → Run α} :
      task.isRender = true → (∀ r, Paired outside w ends (next r) (next' r)) →
        Paired outside w ends (.ask task t next) (.ask task t next')

/-- One run is within a capture what the other one is alone, and leaves the kinds of sinks that are
given. -/
abbrev Run.Mirrors (outside : List Sink) (w : Writer) (kinds : List Bool)
    (x y : Run (Outcome α × State)) : Prop :=
  x.Paired outside w (Mirror outside w kinds) y

/-- A step runs within a capture as it runs alone. -/
def Walk.Mirrored (outside : List Sink) (w : Writer) (m : Walk α) : Prop :=
  ∀ t, t.writer.capacity = none →
    (m (t.within outside w)).Mirrors outside w t.kinds (m t)

private theorem Run.Paired.bind {ends : α → α → Prop} {ends' : β → β → Prop} {x y : Run α}
    {f g : α → Run β} (h : x.Paired outside w ends y)
    (hf : ∀ a b, ends a b → (f a).Paired outside w ends' (g b)) :
    (x.bind f).Paired outside w ends' (y.bind g) := by
  induction h with
  | done h => exact hf _ _ h
  | ask hr hw _ ih => exact .ask hr hw ih
  | render hr _ ih => exact .render hr ih

namespace Run.Mirrors

variable {kinds kinds' : List Bool}

private theorem done {o : Outcome α} {t : State} (hw : t.writer.capacity = none)
    (hk : o.Returned → t.kinds = kinds) :
    Run.Mirrors outside w kinds (.done (o, t.within outside w)) (.done (o, t)) :=
  Paired.done ⟨rfl, rfl, hw, hk⟩

private theorem bind {x y : Run (Outcome α × State)}
    {f g : Outcome α × State → Run (Outcome β × State)} (h : x.Mirrors outside w kinds y)
    (hf : ∀ o t, t.writer.capacity = none → (o.Returned → t.kinds = kinds) →
      (f (o, t.within outside w)).Mirrors outside w kinds' (g (o, t))) :
    (x.bind f).Mirrors outside w kinds' (y.bind g) := by
  apply Paired.bind h
  rintro ⟨o', s⟩ ⟨o, t⟩ ⟨ho, hs, hw, hk⟩
  dsimp only at ho hs
  subst ho hs
  exact hf o' t hw hk

/-- What comes after a step whose error is looked at. -/
theorem attempt_bind {m m' : Walk α} {k k' : Except EvalError α → Walk β} {s t : State}
    (h : (m s).Mirrors outside w kinds (m' t))
    (hk : ∀ r u, u.writer.capacity = none → u.kinds = kinds →
      (k r (u.within outside w)).Mirrors outside w kinds' (k' r u)) :
    ((m.attempt >>= k) s).Mirrors outside w kinds' ((m'.attempt >>= k') t) := by
  rw [Walk.bind_run, Walk.bind_run, Walk.attempt, Walk.attempt, Run.bind_assoc, Run.bind_assoc]
  apply h.bind
  intro o u hu hkinds
  cases o with
  | ok a => exact hk (.ok a) u hu (hkinds trivial)
  | error e => exact hk (.error e) u hu (hkinds trivial)
  | panic message => exact .done hu False.elim

end Run.Mirrors

namespace Walk.Mirrored

variable {m : Walk α}

/-! ### Steps that leave the output alone -/

private theorem pure (a : α) : (Pure.pure a : Walk α).Mirrored outside w :=
  fun _ hw ↦ .done hw fun _ ↦ rfl

private theorem fail (e : EvalError) : (Walk.fail e : Walk α).Mirrored outside w :=
  fun _ hw ↦ .done hw fun _ ↦ rfl

private theorem ofExcept (x : Except EvalError α) : (Walk.ofExcept x).Mirrored outside w := by
  cases x with
  | ok a => exact pure a
  | error e => exact fail e

private theorem read {f : State → α} (hf : State.Blind f) : (Walk.read f).Mirrored outside w := by
  intro t hw
  rw [Walk.read, show f (t.within outside w) = f t from hf ..]
  exact .done hw fun _ ↦ rfl

private theorem modify {f : State → State}
    (hf : ∀ s sinks w, f (s.redirect sinks w) = (f s).redirect sinks w) :
    (Walk.modify f).Mirrored outside w := by
  intro t hw
  have hself : f t = (f t).redirect t.sinks t.writer := hf t t.sinks t.writer
  have hsinks : (f t).sinks = t.sinks := (congrArg State.sinks hself :)
  have hwriter : (f t).writer = t.writer := (congrArg State.writer hself :)
  have hwithin : f (t.within outside w) = (f t).within outside w := by
    rw [State.within, State.within, hf, hsinks, hwriter]
  rw [Walk.modify, hwithin]
  refine .done ?_ fun _ ↦ ?_
  · rw [hwriter, hw]
  · rw [State.kinds, hsinks, State.kinds]

/-- A place of a stack other than that of the sinks may be changed. -/
theorem changeAt {length : State → Nat} {place : Nat} {f : State → State}
    (hl : State.Blind length)
    (hf : ∀ s sinks w, f (s.redirect sinks w) = (f s).redirect sinks w) :
    (Walk.changeAt length place f).Mirrored outside w := by
  intro t hw
  rw [Walk.changeAt, Walk.changeAt, show length (t.within outside w) = length t from hl ..]
  split
  · exact modify hf t hw
  · exact .done hw False.elim

private theorem ended (f : Resources → Ended α) : (Walk.ended f).Mirrored outside w := by
  intro t hw
  have hr : (t.within outside w).resources = t.resources := rfl
  rw [Walk.ended, Walk.ended, hr]
  cases f t.resources with
  | mk o r => exact .done (t := { t with resources := r }) hw fun _ ↦ rfl

private theorem ask {task : Task} (h : task.isRender = false) :
    (Walk.ask task).Mirrored outside w :=
  fun _ hw ↦ .ask h hw fun _ _ hr ↦ Run.Paired.done hr

private theorem bind {f : α → Walk β} (hm : m.Mirrored outside w)
    (hf : ∀ a, (f a).Mirrored outside w) : (m >>= f).Mirrored outside w := by
  intro t hw
  rw [bind_run, bind_run]
  apply (hm t hw).bind
  intro o u hu hk
  cases o with
  | ok a =>
    rw [← hk trivial]
    exact hf a u hu
  | error e => exact .done hu hk
  | panic message => exact .done hu False.elim

private theorem read_bind {f : State → α} {k : α → Walk β} (hf : State.Blind f)
    (hk : ∀ a, (k a).Mirrored outside w) : (Walk.read f >>= k).Mirrored outside w :=
  bind (read hf) hk

private theorem perform {task : Task} (h : task.isRender = false) :
    (Walk.perform task).Mirrored outside w :=
  bind (ask h) fun _ ↦ pure ()

private theorem attempt (hm : m.Mirrored outside w) : m.attempt.Mirrored outside w := by
  intro t hw
  apply (hm t hw).bind
  intro o u hu hk
  cases o with
  | ok a => exact .done hu hk
  | error e => exact .done hu hk
  | panic message => exact .done hu False.elim

private theorem after {f : State → State} (hm : m.Mirrored outside w)
    (hf : ∀ s sinks w, f (s.redirect sinks w) = (f s).redirect sinks w) :
    (m.after f).Mirrored outside w :=
  bind (attempt hm) fun result ↦ bind (modify hf) fun _ ↦ ofExcept result

private theorem inScope (hm : m.Mirrored outside w) : (Walk.inScope m).Mirrored outside w :=
  read_bind (fun _ _ _ ↦ rfl) fun _ ↦ after hm fun _ _ _ ↦ rfl

private theorem mapError {f : State → EvalError → EvalError} (hm : m.Mirrored outside w)
    (hf : State.Blind f) : (m.mapError f).Mirrored outside w := by
  intro t hw
  apply (hm t hw).bind
  intro o u hu hk
  cases o with
  | ok a => exact .done hu hk
  | error e =>
    dsimp only
    rw [show f (u.within outside w) = f u from hf ..]
    exact .done hu hk
  | panic message => exact .done hu False.elim

/-! ### Other renders -/

private theorem renderNested (name : String) (data : Value) :
    (Walk.renderNested name data).Mirrored outside w := by
  intro t hw
  have hcallee : (t.within outside w).callee name = t.callee name := rfl
  rw [Walk.renderNested, Walk.renderNested, hcallee]
  cases t.callee name with
  | error e => exact .done hw fun _ ↦ rfl
  | ok template =>
    dsimp only
    have back {o : Outcome ByteArray} (r : Resources) :
        Run.Mirrors outside w t.kinds (.done (o, { t.within outside w with resources := r }))
          (.done (o, { t with resources := r })) :=
      .done (t := { t with resources := r }) hw fun _ ↦ rfl
    cases template.tree with
    | none => exact back _
    | some tree =>
      apply Run.Paired.render rfl
      intro r
      obtain ⟨o, inner⟩ := r
      cases o with
      | ok _ => exact back _
      | error _ => exact back _
      | panic _ => exact back _

/-! ### Output -/

section

variable {t : State} {above rest : List Sink}

private theorem sinks_within (outside : List Sink) (w : Writer) (hs : t.sinks = above ++ rest) :
    (t.within outside w).sinks = above ++ (rest ++ .buffer t.writer.written :: outside) := by
  rw [← List.append_assoc, ← hs]
  rfl

private theorem length_append_buffer (held : ByteArray) :
    (rest ++ .buffer held :: outside).length = rest.length + (outside.length + 1) := by
  rw [List.length_append, List.length_cons]

private theorem length_sinks_within (t : State) :
    (t.within outside w).sinks.length = t.sinks.length + (outside.length + 1) :=
  length_append_buffer _

/-- Nodes that are walked below a wrap are walked above the buffer of the capture. -/
theorem below (nodes : List Node) (dot : Value) (hw : t.writer.capacity = none)
    (hs : t.sinks = above ++ rest) :
    (Walk.below (rest.length + (outside.length + 1)) nodes dot (t.within outside w)).Mirrors outside
      w t.kinds (Walk.below rest.length nodes dot t) := by
  rw [← length_append_buffer t.writer.written, Walk.below, Walk.below, Walk.read_bind,
    Walk.read_bind, Walk.modify_bind, Walk.modify_bind, State.truncateSinks, State.truncateSinks,
    sinks_within _ _ hs, hs, Stack.above_append, Stack.above_append, Stack.oldest_append,
    Stack.oldest_append]
  let inner : State := { t with sinks := rest }
  have hinner : (Walk.inScope (Walk.nodes nodes dot)).Mirrored outside w := inScope (perform rfl)
  apply (hinner inner hw).attempt_bind
  intro r u hu hk
  have hlength : u.sinks.length = rest.length := by
    rw [← u.length_kinds, hk]
    exact inner.length_kinds
  have hwithin : (u.within outside w).sinks.length =
      (rest ++ .buffer t.writer.written :: outside).length := by
    rw [length_sinks_within, hlength, length_append_buffer]
  rw [Walk.modify_bind, Walk.modify_bind, Stack.oldest_of_length_le (Nat.le_of_eq hwithin),
    Stack.oldest_of_length_le (Nat.le_of_eq hlength)]
  let v : State := { u with sinks := above ++ u.sinks, place := t.place }
  have hkinds : v.kinds = t.kinds := by
    have hrest : u.sinks.map Sink.isBuffer = rest.map Sink.isBuffer := hk
    rw [State.kinds, State.kinds, hs, List.map_append, List.map_append, hrest]
  have hv : { u.within outside w with
      sinks := above ++ (u.within outside w).sinks, place := t.place } = v.within outside w := by
    simp only [v, State.within, State.redirect, List.append_assoc]
  rw [← hkinds, show (t.within outside w).place = t.place from rfl, hv]
  exact ofExcept r v hu

/-- What a wrap has before its content is written above the buffer of the capture. -/
theorem leading (outside : List Sink) (w : Writer) (x : WrapSink) (hw : t.writer.capacity = none)
    (hs : t.sinks = above ++ rest) :
    (Walk.leading (rest.length + (outside.length + 1)) x (t.within outside w)).Mirrors outside w
      t.kinds (Walk.leading rest.length x t) := by
  rw [Walk.leading, Walk.leading]
  cases x.before with
  | none => exact .done hw fun _ ↦ rfl
  | some nodes => exact below nodes x.dot hw hs

end

/-- Below all sinks of its own, a run within a capture writes to the buffer. -/
theorem writeBottom (bytes : ByteArray) {t : State} (hw : t.writer.capacity = none) :
    (Walk.writeLevel (outside.length + 1) bytes (t.within outside w)).Mirrors outside w t.kinds
      (Walk.writeLevel 0 bytes t) := by
  have hwrite : t.writer.write bytes =
      ({ t.writer with written := t.writer.written ++ bytes }, none) := by
    simp only [Writer.write, hw]
  rw [Walk.writeLevel, Walk.writeBottom, hwrite, writeLevel_buffer rfl]
  exact .done (t := { t with writer := { t.writer with written := t.writer.written ++ bytes } }) hw
    fun _ ↦ rfl

/-- At each level above the buffer of a capture bytes are written as they are alone. -/
theorem writeLevel (bytes : ByteArray) {level : Nat} {t : State} (hw : t.writer.capacity = none)
    (hl : level ≤ t.sinks.length) :
    (Walk.writeLevel (level + (outside.length + 1)) bytes (t.within outside w)).Mirrors outside w
      t.kinds (Walk.writeLevel level bytes t) := by
  induction level generalizing bytes t with
  | zero =>
    rw [Nat.zero_add]
    exact writeBottom bytes hw
  | succ level ih =>
    obtain ⟨above, sink, rest, hs, rfl⟩ := Stack.exists_append_cons hl
    have hwithin := sinks_within outside w hs
    rw [List.cons_append] at hwithin
    -- the sink is changed alike on both sides
    have changed (sink' : Sink) (hk : sink'.isBuffer = sink.isBuffer) :
        State.kinds { t with sinks := above ++ sink' :: rest } = t.kinds ∧
        { t.within outside w with
          sinks := above ++ sink' :: (rest ++ .buffer t.writer.written :: outside) } =
            State.within outside w { t with sinks := above ++ sink' :: rest } := by
      simp [State.kinds, hs, hk, State.within, State.redirect]
    rw [Nat.add_right_comm, ← length_append_buffer t.writer.written]
    cases sink with
    | buffer held =>
      obtain ⟨hk, hv⟩ := changed (.buffer (held ++ bytes)) rfl
      rw [writeLevel_buffer hwithin, writeLevel_buffer hs, hv]
      exact .done hw fun _ ↦ hk
    | wrap x =>
      cases ht : x.triggered with
      | true =>
        rw [writeLevel_triggered hwithin ht, writeLevel_triggered hs ht, length_append_buffer]
        exact ih bytes hw (Nat.le_of_succ_le hl)
      | false =>
        cases hb : hasContent bytes with
        | false =>
          obtain ⟨hk, hv⟩ := changed (.wrap (x.holding (x.collect bytes))) rfl
          rw [writeLevel_blank hwithin ht hb, writeLevel_blank hs ht hb, hv]
          exact .done hw fun _ ↦ hk
        | true =>
          obtain ⟨hk, hv⟩ := changed (.wrap x.opened) rfl
          rw [writeLevel_content hwithin ht hb, writeLevel_content hs ht hb, hv,
            length_append_buffer, ← hk, bind_run, bind_run]
          have hleading := leading outside w x
            (t := { t with sinks := above ++ .wrap x.opened :: rest }) hw (List.append_cons ..)
          apply hleading.bind
          intro o u hu hku
          cases o with
          | error e => exact .done hu hku
          | panic message => exact .done hu False.elim
          | ok _ =>
            rw [← hku trivial]
            apply ih (x.collect bytes) hu
            rw [← u.length_kinds, hku trivial, hk, t.length_kinds]
            exact Nat.le_of_succ_le hl

private theorem write (bytes : ByteArray) : (Walk.write bytes).Mirrored outside w := by
  intro t hw
  rw [Walk.write]
  split
  · exact .done hw fun _ ↦ rfl
  · have hlength : (t.within outside w).sinks.length = t.sinks.length + (outside.length + 1) :=
      length_append_buffer _
    rw [Walk.read_bind, Walk.read_bind, hlength]
    exact writeLevel bytes hw (Nat.le_refl _)

/-! ### Sinks of its own -/

/-- Nothing is to be dropped above the sinks that there are. -/
theorem truncateSinks_self (outside : List Sink) (w : Writer) {u : State} {n : Nat}
    (h : u.kinds.length ≤ n) :
    (u.within outside w).truncateSinks (n + (outside.length + 1)) = u.within outside w ∧
      u.truncateSinks n = u := by
  rw [u.length_kinds] at h
  constructor
  · rw [State.truncateSinks, Stack.oldest_of_length_le]
    rw [length_sinks_within]
    exact Nat.add_le_add_right h _
  · rw [State.truncateSinks, Stack.oldest_of_length_le h]

private theorem capture {m : Walk Unit} (hm : m.Mirrored outside w) :
    (Walk.capture m).Mirrored outside w := by
  intro t hw
  rw [Walk.capture, Walk.read_bind, Walk.read_bind, Walk.modify_bind, Walk.modify_bind]
  apply (hm (t.pushSink (.buffer .empty)) hw).attempt_bind
  intro r u hu hk
  obtain ⟨hwithin, halone⟩ := truncateSinks_self outside w
    (n := t.sinks.length + 1) (Nat.le_of_eq (by rw [hk, State.length_kinds]; rfl))
  rw [length_sinks_within, Nat.add_right_comm, Walk.modify_bind, Walk.modify_bind, hwithin, halone]
  obtain ⟨sink, rest, hs, hsink, hrest⟩ := List.map_eq_cons_iff.mp hk
  cases sink with
  | wrap x => cases hsink
  | buffer held =>
    have hpop : Sink.popBuffer (u.within outside w).sinks =
        (held, rest ++ .buffer u.writer.written :: outside) := by
      rw [State.within, State.redirect, hs]
      rfl
    rw [Walk.read_bind, Walk.read_bind, Walk.modify_bind, Walk.modify_bind, hpop, hs]
    have hback : State.kinds { u with sinks := rest } = t.kinds := hrest
    rw [← hback]
    exact ofExcept _ { u with sinks := rest } hu

private theorem watch {x : WrapSink} {k : Except EvalError α → Bool → Walk β}
    (hm : m.Mirrored outside w) (hk : ∀ result triggered, (k result triggered).Mirrored outside w) :
    (Walk.watch x m k).Mirrored outside w := by
  intro t hw
  rw [Walk.watch, Walk.read_bind, Walk.read_bind, Walk.modify_bind, Walk.modify_bind]
  apply (hm (t.pushSink (.wrap x)) hw).attempt_bind
  intro r u hu hkinds
  obtain ⟨hwithin, halone⟩ := truncateSinks_self outside w
    (n := t.sinks.length + 1) (Nat.le_of_eq (by rw [hkinds, State.length_kinds]; rfl))
  rw [length_sinks_within, Nat.add_right_comm, Walk.modify_bind, Walk.modify_bind, hwithin, halone]
  obtain ⟨sink, rest, hs, -, hrest⟩ := List.map_eq_cons_iff.mp hkinds
  have hcons : (u.within outside w).sinks =
      sink :: (rest ++ .buffer u.writer.written :: outside) := by
    rw [State.within, State.redirect, hs]
    rfl
  rw [Walk.read_bind, Walk.read_bind, Walk.modify_bind, Walk.modify_bind, hcons, hs]
  have hback : State.kinds { u with sinks := rest } = t.kinds := hrest
  rw [← hback]
  exact hk r _ { u with sinks := rest } hu

end Walk.Mirrored

/-- What is composed runs within a capture as it runs alone. -/
theorem Walk.Composed.mirrored {m : Walk α} (h : Composed host m) : m.Mirrored outside w := by
  induction h with
  | pure a => exact .pure a
  | fail e => exact .fail e
  | read hf => exact .read hf
  | modify hf => exact .modify hf.redirect
  | ended f => exact .ended f
  | ask ht => exact .ask ht
  | text s => exact .write _
  | render name data => exact .renderNested name data
  | yield name data => exact .bind (.renderNested name data) .write
  | capture _ ih => exact .capture ih
  | watch _ _ ih ihk => exact .watch ih ihk
  | bind _ _ ih ihf => exact .bind ih ihf
  | attempt _ ih => exact .attempt ih
  | after _ hf ih => exact .after ih hf.redirect
  | mapError _ hf ih => exact .mapError ih hf

/-! ### Tasks -/

namespace Walk

private theorem setVariable_mirrored (place : Nat) (v : Value) :
    (setVariable place v).Mirrored outside w :=
  .changeAt (fun _ _ _ ↦ rfl) fun _ _ _ ↦ rfl

/-- The body of a callback block runs within a capture as it runs alone. -/
theorem runBody_mirrored (handle : Nat) (b : Block) (dot : Value) :
    (runBody handle b dot).Mirrored outside w := by
  intro t hw
  have hbody : (Walk.nodes b.body dot).Mirrored outside w := .perform rfl
  have count : (do
      setCalls handle (b.calls + 1)
      setVariable b.base (.ofNat (b.calls + 1))).Mirrored outside w :=
    .bind (.changeAt (fun _ _ _ ↦ rfl) fun _ _ _ ↦ rfl) fun _ ↦ setVariable_mirrored _ _
  rw [runBody, read_bind, read_bind, bind_run, bind_run]
  dsimp only
  rw [Mirrored.length_sinks_within]
  have hafter : Run.Mirrors outside w t.kinds
      (((Walk.nodes b.body dot).after fun s ↦
        { s.truncateSinks (t.sinks.length + (outside.length + 1)) with
          vars := s.vars.take t.vars.length, place := t.place }) (t.within outside w))
      (((Walk.nodes b.body dot).after fun s ↦
        { s.truncateSinks t.sinks.length with
          vars := s.vars.take t.vars.length, place := t.place }) t) := by
    apply (hbody t hw).attempt_bind
    intro r u hu hk
    obtain ⟨hwithin, halone⟩ := Mirrored.truncateSinks_self outside w
      (n := t.sinks.length) (Nat.le_of_eq (by rw [hk, State.length_kinds]))
    rw [modify_bind, modify_bind, hwithin, halone, ← hk]
    exact Mirrored.ofExcept r { u with vars := u.vars.take t.vars.length, place := t.place } hu
  apply hafter.bind
  intro o u hu hk
  cases o with
  | ok _ =>
    rw [← hk trivial]
    exact count u hu
  | error e => exact .done hu hk
  | panic message => exact .done hu False.elim

private theorem invokeBlock_mirrored (handle : Nat) (dot : Value) (args : List Value) :
    (invokeBlock handle dot args).Mirrored outside w := by
  apply Mirrored.read_bind (fun _ _ _ ↦ rfl)
  intro found
  split
  · exact .fail _
  · apply Mirrored.bind (.ended _)
    intro list
    apply Mirrored.bind (setVariable_mirrored _ _)
    intro _
    apply Mirrored.bind (setVariable_mirrored _ _)
    intro _
    exact runBody_mirrored _ _ _

private theorem callWithBlock_mirrored (call : Command) (body : List Node) (dot : Value) :
    (callWithBlock host call body dot).Mirrored outside w := by
  apply Mirrored.read_bind (fun _ _ _ ↦ rfl)
  intro handle
  apply Mirrored.bind (.modify fun _ _ _ ↦ rfl)
  intro _
  exact .after (blockCall_evalWith_made handle call).composed.mirrored fun _ _ _ ↦ rfl

/-- Every task runs within a capture as it runs alone. -/
theorem start_mirrored (task : Task) : (start host task).Mirrored outside w := by
  cases task with
  | invoke handle dot args =>
    exact .bind (invokeBlock_mirrored handle dot args) fun _ ↦ .pure _
  | callback call body dot => exact callWithBlock_mirrored call body dot
  | walk | enter | render | call => exact (start_composed rfl).mirrored

end Walk

namespace Run.Paired

variable {ends : α → α → Prop} {x y : Run α} {a b : α} {task : Task} {s : State}

/-- A run within a capture ends if the run alone ends. -/
theorem exists_ends (h : x.Paired outside w ends y) (hy : y.Ends host b) :
    ∃ a, x.Ends host a ∧ ends a b := by
  induction hy with
  | done =>
    cases h with
    | done h => exact ⟨_, .done _, h⟩
  | ask _ _ ihr ihb =>
    cases h with
    | ask ht hw hn =>
      obtain ⟨r, hr, hm⟩ := ihr (Walk.start_mirrored _ _ hw)
      obtain ⟨a, ha, h⟩ := ihb (hn _ _ hm)
      exact ⟨a, .ask hr ha, h⟩
    | render ht hn =>
      obtain ⟨a, ha, h⟩ := ihb (hn _)
      exact ⟨a, .ask ‹_› ha, h⟩

/-- A run within a capture ends only if the run alone ends. -/
theorem of_ends (h : x.Paired outside w ends y) (hx : x.Ends host a) :
    ∃ b, y.Ends host b ∧ ends a b := by
  induction hx with
  | done =>
    cases h with
    | done h => exact ⟨_, .done _, h⟩
  | ask _ _ ihr iha =>
    cases h with
    | ask ht hw hn =>
      obtain ⟨r, hr, hm⟩ := ihr (Walk.start_mirrored _ _ hw)
      obtain ⟨b, hb, h⟩ := iha (hn _ _ hm)
      exact ⟨b, .ask hr hb, h⟩
    | render ht hn =>
      obtain ⟨b, hb, h⟩ := iha (hn _)
      exact ⟨b, .ask ‹_› hb, h⟩

/-- What a run within a capture asks for is what the run alone asks for. -/
theorem of_asks (h : x.Paired outside w ends y) (hx : x.Asks host task s) :
    (task.isRender = true ∧ y.Asks host task s) ∨
      ∃ t, y.Asks host task t ∧ s = t.within outside w ∧ t.writer.capacity = none := by
  induction hx generalizing y with
  | now =>
    cases h with
    | ask _ hw _ => exact .inr ⟨_, .now, rfl, hw⟩
    | render ht _ => exact .inl ⟨ht, .now⟩
  | later hr _ ih =>
    cases h with
    | ask _ hw hn =>
      obtain ⟨r', hr', hm⟩ := of_ends (Walk.start_mirrored _ _ hw) hr
      obtain ⟨ht, ha⟩ | ⟨t, ha, hs⟩ := ih (hn _ _ hm)
      · exact .inl ⟨ht, .later hr' ha⟩
      · exact .inr ⟨t, .later hr' ha, hs⟩
    | render _ hn =>
      obtain ⟨ht, ha⟩ | ⟨t, ha, hs⟩ := ih (hn _)
      · exact .inl ⟨ht, .later hr ha⟩
      · exact .inr ⟨t, .later hr ha, hs⟩

end Run.Paired

end TextTemplate
