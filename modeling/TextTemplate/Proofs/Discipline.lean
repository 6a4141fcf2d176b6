import TextTemplate.Proofs.Tasks

/-!
# Stack discipline

The stacks of a render are balanced around every node: however the walk of a node ends, sinks,
active blocks and overrides are those that it found, and the variables that it found are still the
first ones. So no place that is looked up in a stack lies beyond its end.
-/

set_option autoImplicit false

namespace TextTemplate

variable {host : Host}

/-- Whether a sink keeps what it receives. -/
def Sink.isBuffer : Sink → Bool
  | .buffer _ => true
  | .wrap _ => false

/-- What a sink has collected does not matter for its kind. -/
@[simp] theorem Sink.isBuffer_fresh (sink : Sink) : sink.fresh.isBuffer = sink.isBuffer := by
  cases sink <;> rfl

/-- What a node leaves as it was. -/
structure State.Kept (s v : State) : Prop where
  sinks : v.sinks.map Sink.isBuffer = s.sinks.map Sink.isBuffer
  blocks : v.blocks.length = s.blocks.length
  overrides : v.overrides = s.overrides
  template : v.template = s.template
  depth : v.depth = s.depth
  vars : s.vars.names <+: v.vars.names

/-- What stays level is kept. -/
theorem Level.kept {s v : State} (h : Level host s v) : s.Kept v where
  sinks := by
    have hf : Sink.isBuffer ∘ Sink.fresh = Sink.isBuffer := funext Sink.isBuffer_fresh
    rw [← hf, ← List.map_map, ← List.map_map, h.sinks]
  blocks := h.length_blocks
  overrides := h.overrides
  template := h.template
  depth := h.depth
  vars := h.names

private theorem Walk.outOfBounds_head (length place : Nat) :
    (Walk.outOfBounds length place).toList.head? = some 'i' := by
  have hi : "index out of bounds: the len is ".toList.head? = some 'i' := by decide
  unfold outOfBounds
  simp only [String.toList_append, List.head?_append, hi, Option.some_or]

/-- Only the host panics with the message of a lookup beyond the end of a stack. -/
theorem Host.MayPanic.outOfBounds {length place : Nat}
    (h : host.MayPanic (some (Walk.outOfBounds length place))) :
    host.Panics (some (Walk.outOfBounds length place)) := by
  have differs (text : String) (ht : text.toList.head? ≠ some 'i') :
      Walk.outOfBounds length place ≠ text := by
    intro he
    apply ht
    rw [← he]
    exact Walk.outOfBounds_head length place
  rcases h with h | h | h
  · exact h
  · exact absurd (Option.some.inj h) (differs _ (by decide))
  · exact absurd (Option.some.inj h) (differs _ (by decide))

/-- However the walk of a node ends, the stacks are balanced around it; and it looks up no place
beyond the end of a stack, which is a panic that only the host can bring about. -/
theorem node_balanced {n : Node} {dot : Value} {s v : State} {o : Outcome Unit}
    (h : (Walk.node host dot n s).Ends host (o, v)) :
    (o.Returned → s.Kept v ∧ (n.isScope → v.vars.length = s.vars.length)) ∧
      ∀ length place, ¬ host.Panics (some (Walk.outOfBounds length place)) →
        o ≠ .panic (some (Walk.outOfBounds length place)) := by
  have hl : Walk.LeavesNode host n s (o, v) :=
    (Walk.node_meets n).ends Walk.start_meets h
  cases o with
  | ok _ | error _ =>
    obtain ⟨level, length⟩ := hl
    refine ⟨fun _ ↦ ⟨level.kept, length⟩, ?_⟩
    intro _ _ _ hp
    cases hp
  | panic message =>
    refine ⟨False.elim, ?_⟩
    intro length place hh hp
    apply hh
    cases hp
    exact Host.MayPanic.outOfBounds hl

private theorem wrap_ends : ∃ v,
    (Walk.node .empty .invalid
      (.wrap ⟨0, 0⟩ none [.text ⟨0, 0⟩ "a"] (some [.text ⟨0, 0⟩ "b"]) none none)
      .blank).Ends .empty (.ok (), v) ∧ v.writer.written = "ba".toUTF8 :=
  ⟨_, .after rfl (.after rfl (.value rfl) (.value rfl)) (.value rfl), rfl⟩

/-- A wrap with nodes before its body leaves the variables that it found. -/
theorem node_balanced_wrap : ∃ n v,
    (Walk.node .empty .invalid n .blank).Ends .empty (.ok (), v) ∧
      v.writer.written = "ba".toUTF8 ∧ State.blank.Kept v ∧ v.vars.length = 1 := by
  obtain ⟨v, h, hw⟩ := wrap_ends
  have hb := (node_balanced h).1 trivial
  exact ⟨_, v, h, hw, hb.1, hb.2 rfl⟩

end TextTemplate
