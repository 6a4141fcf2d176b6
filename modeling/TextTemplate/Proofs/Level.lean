import TextTemplate.Proofs.Contract

/-!
# States at one level

A step of a render may write, assign variables, declare further ones and count the runs of a
callback block. What it leaves is the outline of the state: the template and its caller's, the
functions in force, the active blocks and the kinds of the sinks. States of one outline that have
the same variables to begin with are at one level.
-/

set_option autoImplicit false

namespace TextTemplate

variable {host : Host}

/-- A sink as it was at its start. -/
def Sink.fresh : Sink → Sink
  | .buffer _ => .buffer .empty
  | .wrap w => .wrap (.fresh w.strip w.before w.dot)

/-- What a sink collects does not matter for what it is. -/
@[simp] theorem Sink.fresh_append (bytes : ByteArray) (sink : Sink) :
    (sink.append bytes).fresh = sink.fresh := by
  cases sink <;> rfl

/-- A wrap keeps its beginning with what it receives. -/
@[simp] theorem WrapSink.receive_before (w : WrapSink) (bytes : ByteArray) :
    (w.receive bytes).1.before = w.before := by
  simp only [WrapSink.receive]
  split <;> rfl

/-- A wrap keeps its dot with what it receives. -/
@[simp] theorem WrapSink.receive_dot (w : WrapSink) (bytes : ByteArray) :
    (w.receive bytes).1.dot = w.dot := by
  simp only [WrapSink.receive]
  split <;> rfl

/-- A wrap stays the same but for what it receives. -/
theorem WrapSink.fresh_receive (w : WrapSink) (bytes : ByteArray) :
    Sink.fresh (.wrap (w.receive bytes).1) = Sink.fresh (.wrap w) := by
  simp only [WrapSink.receive]
  split <;> rfl

/-- A block as it was at its start. -/
def Block.fresh (b : Block) : Block := { b with calls := 0 }

namespace Bindings

/-- The names of variables, the outermost first. -/
def names (vars : Bindings) : List String := vars.map Prod.fst

/-- The names of bindings after others come after theirs. -/
@[simp] theorem names_append (vars more : Bindings) :
    (vars ++ more).names = vars.names ++ more.names := List.map_append

/-- The names of the first bindings are the first names. -/
@[simp] theorem names_take (vars : Bindings) (n : Nat) :
    Bindings.names (vars.take n) = vars.names.take n := List.map_take

/-- There are as many names as bindings. -/
@[simp] theorem length_names (vars : Bindings) : vars.names.length = vars.length :=
  List.length_map ..

/-- A new value for a binding leaves the names. -/
@[simp] theorem names_setAt (vars : Bindings) (i : Nat) (v : Value) :
    (vars.setAt i v).names = vars.names := by
  simp only [names, setAt]
  induction vars generalizing i with
  | nil => simp
  | cons b rest ih =>
    cases i with
    | zero => simp
    | succ i => simp [ih]

/-- A new value for a binding leaves their number. -/
@[simp] theorem length_setAt (vars : Bindings) (i : Nat) (v : Value) :
    (vars.setAt i v).length = vars.length := List.length_modify ..

/-- A new value for a binding counted from the end leaves the names. -/
@[simp] theorem names_setFromEnd (vars : Bindings) (n : Nat) (v : Value) :
    (vars.setFromEnd n v).names = vars.names := by
  simp only [setFromEnd]
  split
  · exact names_setAt ..
  · rfl

/-- An assignment leaves the names. -/
theorem names_assign {vars assigned : Bindings} {name : String} {v : Value}
    (h : vars.assign? name v = some assigned) : assigned.names = vars.names := by
  induction vars generalizing assigned with
  | nil => simp [assign?] at h
  | cons b rest ih =>
    simp only [assign?] at h
    cases hr : assign? name v rest with
    | some more =>
      simp only [hr, Option.some.injEq] at h
      subst h
      simp only [names, List.map_cons, List.cons.injEq, true_and]
      exact ih hr
    | none =>
      simp only [hr] at h
      split at h
      · simp only [Option.some.injEq] at h
        subst h
        rfl
      · cases h

end Bindings

/-- What every step of a render leaves as it was. -/
def State.outline (s : State) : State :=
  { s with
    vars := []
    built := []
    blocks := s.blocks.map Block.fresh
    place := none
    sinks := s.sinks.map Sink.fresh
    writer := .unlimited
    resources := .initial .invalid }

/-- A state with a sink on top of its others. -/
def State.pushSink (sink : Sink) (s : State) : State := { s with sinks := sink :: s.sinks }

/-- What a lookup finds is among the entries. -/
theorem mem_of_lookup_eq_some {κ β : Type} [BEq κ] [LawfulBEq κ] {entries : List (κ × β)} {k : κ}
    {v : β} (h : entries.lookup k = some v) : (k, v) ∈ entries := by
  obtain ⟨before, after, hs, -⟩ := List.lookup_eq_some_iff.mp h
  rw [hs]
  exact List.mem_append_right _ List.mem_cons_self

/-- A function that a factory of the host builds. -/
def Host.Builds (host : Host) (factory : Nat) (f : Function) : Prop :=
  ∃ context r r', (host.build factory context).run host r = (.ok f, r')

/-- A state has the outline and the variables of another one, and maybe more variables. -/
structure Level (host : Host) (s u : State) : Prop where
  outline : u.outline = s.outline
  names : s.vars.names <+: u.vars.names
  built : ∀ entry ∈ u.built, entry ∈ s.built ∨ host.Builds entry.1 entry.2

namespace Level

variable {s t u : State}

/-- A state is level with itself. -/
theorem refl (s : State) : Level host s s := ⟨rfl, List.prefix_rfl, fun _ h ↦ .inl h⟩

/-- What is level with a state stays so from one step to the next. -/
theorem trans (h : Level host s t) (k : Level host t u) : Level host s u where
  outline := k.outline.trans h.outline
  names := h.names.trans k.names
  built entry he := (k.built entry he).elim (h.built entry) .inr

/-- Level states have one executor. -/
theorem exec (h : Level host s u) : u.exec = s.exec := (congrArg State.exec h.outline :)

/-- Level states have one template. -/
theorem template (h : Level host s u) : u.template = s.template :=
  (congrArg State.template h.outline :)

/-- Level states have the same globals. -/
theorem globals (h : Level host s u) : u.globals = s.globals := (congrArg State.globals h.outline :)

/-- Level states have one depth. -/
theorem depth (h : Level host s u) : u.depth = s.depth := (congrArg State.depth h.outline :)

/-- Level states have the same functions of templates. -/
theorem overrides (h : Level host s u) : u.overrides = s.overrides :=
  (congrArg State.overrides h.outline :)

/-- Level states have the same blocks, but for the number of their calls. -/
theorem blocks (h : Level host s u) : u.blocks.map Block.fresh = s.blocks.map Block.fresh :=
  congrArg State.blocks h.outline

/-- Level states have the same sinks, but for what they have collected. -/
theorem sinks (h : Level host s u) : u.sinks.map Sink.fresh = s.sinks.map Sink.fresh :=
  congrArg State.sinks h.outline

/-- Level states have as many sinks. -/
theorem length_sinks (h : Level host s u) : u.sinks.length = s.sinks.length := by
  simpa using congrArg List.length h.sinks

/-- Level states have as many blocks. -/
theorem length_blocks (h : Level host s u) : u.blocks.length = s.blocks.length := by
  simpa using congrArg List.length h.blocks

/-- No variable is lost between level states. -/
theorem length_vars (h : Level host s u) : s.vars.length ≤ u.vars.length := by
  simpa using h.names.length_le

/-- Level states call the same templates. -/
theorem callee (h : Level host s u) (name : String) : u.callee name = s.callee name := by
  simp only [State.callee, h.exec, h.depth]

/-! ### Changes that stay at a level -/

/-- Other resources do not matter for the level. -/
theorem withResources (h : Level host s u) (r : Resources) :
    Level host s { u with resources := r } := ⟨h.outline, h.names, h.built⟩

/-- Another place does not matter for the level. -/
theorem withPlace (h : Level host s u) (place : Option (Span × Subject)) :
    Level host s { u with place := place } := ⟨h.outline, h.names, h.built⟩

/-- Another writer does not matter for the level. -/
theorem withWriter (h : Level host s u) (w : Writer) : Level host s { u with writer := w } :=
  ⟨h.outline, h.names, h.built⟩

/-- Variables may be added, and may have other values. -/
theorem withVars (h : Level host s u) {vars : Bindings} (hv : s.vars.names <+: vars.names) :
    Level host s { u with vars := vars } := ⟨h.outline, hv, h.built⟩

/-- Sinks may have collected something else. -/
theorem withSinks (h : Level host s u) {sinks : List Sink}
    (hs : sinks.map Sink.fresh = u.sinks.map Sink.fresh) :
    Level host s { u with sinks := sinks } where
  outline := by
    have hu : ({ u with sinks := sinks } : State).outline = u.outline := by
      simp only [State.outline, hs]
    exact hu.trans h.outline
  names := h.names
  built := h.built

/-- Blocks may have been called some other number of times. -/
theorem withBlocks (h : Level host s u) {blocks : List Block}
    (hb : blocks.map Block.fresh = u.blocks.map Block.fresh) :
    Level host s { u with blocks := blocks } where
  outline := by
    have hu : ({ u with blocks := blocks } : State).outline = u.outline := by
      simp only [State.outline, hb]
    exact hu.trans h.outline
  names := h.names
  built := h.built

/-- A function may have been built. -/
theorem withBuilt (h : Level host s u) {factory : Nat} {f : Function}
    (hf : host.Builds factory f) :
    Level host s { u with built := (factory, f) :: u.built } where
  outline := h.outline
  names := h.names
  built entry he := by
    rcases List.mem_cons.mp he with rfl | he
    · exact .inr hf
    · exact h.built entry he

/-- Variables may be dropped as long as those of the level stay. -/
theorem takeVars (h : Level host s u) {mark : Nat} (hm : s.vars.length ≤ mark) :
    Level host s { u with vars := u.vars.take mark } := by
  apply h.withVars
  rw [Bindings.names_take, List.prefix_take_iff, Bindings.length_names]
  exact ⟨h.names, hm⟩

/-- The wraps of states at one level differ only in what they have received. -/
theorem wrapAt (h : Level host s u) {n : Nat} {w : WrapSink}
    (hw : Stack.get? u.sinks n = some (.wrap w)) :
    ∃ x, Stack.get? s.sinks n = some (.wrap x) ∧ x.before = w.before ∧ x.dot = w.dot := by
  have hi : Stack.get? (s.sinks.map Sink.fresh) n = some (Sink.fresh (.wrap w)) := by
    rw [← h.sinks, Stack.get?_map, hw]
    rfl
  rw [Stack.get?_map, Option.map_eq_some_iff] at hi
  obtain ⟨sink, hs, hf⟩ := hi
  cases sink with
  | buffer => cases hf
  | wrap x =>
    simp only [Sink.fresh, WrapSink.fresh, Sink.wrap.injEq, WrapSink.mk.injEq] at hf
    exact ⟨x, hs, hf.2.2.2.1, hf.2.2.2.2⟩

/-! ### Parts of the stack of sinks -/

/-- States that are level are so with one more sink. -/
theorem pushSink (h : Level host s u) (sink : Sink) :
    Level host (s.pushSink sink) (u.pushSink sink) where
  outline := by
    calc (u.pushSink sink).outline
        = { u.outline with sinks := sink.fresh :: u.sinks.map Sink.fresh } := rfl
      _ = (s.pushSink sink).outline := by rw [h.outline, h.sinks]; rfl
  names := h.names
  built := h.built

/-- States that are level are so with the first sinks alone. -/
theorem truncateSinks (h : Level host s u) (n : Nat) :
    Level host (s.truncateSinks n) (u.truncateSinks n) where
  outline := by
    calc (u.truncateSinks n).outline
        = { u.outline with sinks := (Stack.oldest u.sinks n).map Sink.fresh } := rfl
      _ = (s.truncateSinks n).outline := by
        rw [h.outline, Stack.map_oldest, h.sinks, ← Stack.map_oldest]; rfl
  names := h.names
  built := h.built

/-- Nothing is to be dropped above the sinks of the level. -/
theorem truncateSinks_self (h : Level host s u) {n : Nat} (hn : s.sinks.length ≤ n) :
    u.truncateSinks n = u := by
  have hl : u.sinks.length ≤ n := by
    rw [h.length_sinks]
    exact hn
  rw [State.truncateSinks, Stack.oldest_of_length_le hl]

/-- A sink that is put on the stack and taken off again leaves the level. -/
theorem popSink {sink : Sink} (h : Level host (s.pushSink sink) u) :
    Level host s { u with sinks := u.sinks.tail } where
  outline := by
    have hs : u.sinks.tail.map Sink.fresh = s.sinks.map Sink.fresh := by
      rw [List.map_tail, h.sinks, State.pushSink, List.map_cons, List.tail_cons]
    calc ({ u with sinks := u.sinks.tail } : State).outline
        = { u.outline with sinks := u.sinks.tail.map Sink.fresh } := rfl
      _ = s.outline := by rw [h.outline, hs]; rfl
  names := h.names
  built := h.built

/-- The buffer on top is the sink that is taken off as a buffer. -/
theorem popBuffer (h : Level host (s.pushSink (.buffer .empty)) u) :
    Level host s { u with sinks := (Sink.popBuffer u.sinks).2 } := by
  have hp : (Sink.popBuffer u.sinks).2 = u.sinks.tail := by
    have hs := h.sinks
    cases hu : u.sinks with
    | nil => rfl
    | cons sink rest =>
      cases sink with
      | buffer held => rfl
      | wrap w =>
        rw [hu] at hs
        cases hs
  rw [hp]
  exact h.popSink

/-- Sinks that are set aside and put back leave the level. -/
theorem restoreSinks {n : Nat} (h : Level host (s.truncateSinks n) u) :
    Level host s { u with sinks := Stack.above s.sinks n ++ Stack.oldest u.sinks n } where
  outline := by
    have hl : u.sinks.length ≤ n := by
      rw [h.length_sinks]
      exact Stack.length_oldest_le s.sinks n
    have hs : (Stack.above s.sinks n ++ Stack.oldest u.sinks n).map Sink.fresh =
        s.sinks.map Sink.fresh := by
      rw [Stack.oldest_of_length_le hl, List.map_append, h.sinks, ← List.map_append]
      exact congrArg (List.map Sink.fresh) (Stack.above_append_oldest ..)
    calc ({ u with sinks := Stack.above s.sinks n ++ Stack.oldest u.sinks n } : State).outline
        = { u.outline with
            sinks := (Stack.above s.sinks n ++ Stack.oldest u.sinks n).map Sink.fresh } := rfl
      _ = s.outline := by rw [h.outline, hs]; rfl
  names := h.names
  built := h.built

end Level

end TextTemplate
