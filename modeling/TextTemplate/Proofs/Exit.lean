import Mathlib.Data.List.DropRight
import TextTemplate.Proofs.Entry
import TextTemplate.Proofs.Growth
import TextTemplate.Proofs.Lookup
import TextTemplate.Proofs.Mirror

/-!
# Exits

An exit ends a render quietly, from wherever it comes. What has reached the output by then stays
there (`exit_keeps`), and content reaches the output at once unless it is collected
(`Walk.write_delivers`). A nested render collects its output: what a template has written that
another one yields to is lost where it exits.
-/

set_option autoImplicit false

namespace TextTemplate

variable {α β : Type} {host : Host}

/-! ### Content that is written -/

private theorem dropBlank_dropBlank (bytes : ByteArray) :
    dropBlank (dropBlank bytes) = dropBlank bytes := by
  apply ByteArray.ext
  simp only [dropBlank, List.dropWhile_idempotent]

/-- Bytes are white space and what is left where that is cut off. -/
theorem exists_append_dropBlank (bytes : ByteArray) : ∃ x, bytes = x ++ dropBlank bytes := by
  refine ⟨bytes.extract 0 (leadingBlank bytes), ?_⟩
  rw [← extract_leadingBlank, ByteArray.extract_append_extract, Nat.zero_min,
    Nat.max_eq_right (leadingBlank_le_size bytes), ByteArray.extract_zero_size]

private theorem Writer.written_of_write {w w' : Writer} {bytes : ByteArray}
    (h : w.write bytes = (w', none)) : w'.written = w.written ++ bytes := by
  rw [write] at h
  split at h
  · cases h
    rfl
  · dsimp only at h
    split at h
    · cases h
      rfl
    · cases h

/-- A wrap keeps what its bytes end in, if that does not begin with white space. -/
theorem WrapSink.exists_collect (w : WrapSink) (x : ByteArray) {content : ByteArray}
    (hd : dropBlank content = content) : ∃ y, w.collect (x ++ content) = y ++ content := by
  rw [collect]
  split
  · rw [dropBlank_append]
    split
    · exact ⟨w.pending ++ dropBlank x, ByteArray.append_assoc.symm⟩
    · rw [hd]
      exact ⟨w.pending, rfl⟩
  · exact ⟨w.pending ++ x, ByteArray.append_assoc.symm⟩

/-- No sink of a state collects what is written, so it goes on to the writer. -/
def State.Direct (s : State) : Prop := true ∉ s.kinds

private theorem Level.direct {s u : State} (h : Level host s u) (hs : s.Direct) : u.Direct := by
  rw [State.Direct, State.kinds, h.kept.sinks]
  exact hs

namespace Walk

variable {s v : State}

/-- What a wrap has before its content leaves the level. -/
theorem leading_level {above rest : List Sink} {w : WrapSink}
    (hs : s.sinks = above ++ .wrap w.opened :: rest)
    (h : (leading rest.length w s).Ends host (.ok (), v)) : Level host s v := by
  rw [leading] at h
  cases hb : w.before with
  | none =>
    rw [hb] at h
    cases h
    exact .refl s
  | some nodes =>
    rw [hb] at h
    have hw : Stack.get? s.sinks rest.length = some (.wrap w.opened) := by
      rw [hs, Stack.get?_append_cons]
    have meets : (below rest.length nodes w.dot s).Meets (s.Requests host anyCall) (Answers host)
        (Leaves host (Level host s)) := below_meets (.refl s) hw hb rfl
    exact meets.ends start_meets h

/-- What is written at a level without buffers below it reaches the writer, apart from white space
that it begins with. -/
theorem writeLevel_delivers {level : Nat} {x content : ByteArray}
    (hd : dropBlank content = content) (hl : level ≤ s.sinks.length) (hs : s.Direct)
    (h : (writeLevel level (x ++ content) s).Ends host (.ok (), v)) :
    ∃ y, v.writer.written = y ++ content := by
  induction level generalizing s x with
  | zero =>
    rw [writeLevel, writeBottom] at h
    split at h
    · next w hw =>
      cases h
      exact ⟨s.writer.written ++ x,
        (Writer.written_of_write hw).trans ByteArray.append_assoc.symm⟩
    · cases h
  | succ level ih =>
    obtain ⟨above, sink, rest, hsinks, rfl⟩ := Stack.exists_append_cons hl
    cases sink with
    | buffer held =>
      refine absurd ?_ hs
      rw [State.kinds, hsinks]
      simp [Sink.isBuffer]
    | wrap w =>
      cases ht : w.triggered with
      | true =>
        rw [writeLevel_triggered hsinks ht] at h
        exact ih (Nat.le_of_succ_le hl) hs h
      | false =>
        cases hb : hasContent (x ++ content) with
        | false =>
          rw [hasContent_append, Bool.or_eq_false_iff] at hb
          rw [dropBlank_of_blank hb.2] at hd
          exact ⟨v.writer.written, by rw [← hd, ByteArray.append_empty]⟩
        | true =>
          rw [writeLevel_content hsinks ht hb] at h
          obtain ⟨_, u, hlead, hrest⟩ := of_bind_ends_ok h
          have level : Level host { s with sinks := above ++ .wrap w.opened :: rest } u :=
            leading_level rfl hlead
          obtain ⟨y, hy⟩ := w.exists_collect x hd
          rw [hy] at hrest
          have opened : State.Direct { s with sinks := above ++ .wrap w.opened :: rest } := by
            rw [State.Direct, State.kinds, List.map_append, List.map_cons]
            rw [State.Direct, State.kinds, hsinks, List.map_append, List.map_cons] at hs
            exact hs
          refine ih ?_ (level.direct opened) hrest
          rw [level.length_sinks, List.length_append, List.length_cons]
          omega

/-- Where output goes to the writer, what is written is there, apart from white space that it begins
with. -/
theorem write_delivers {bytes : ByteArray} (hs : s.Direct)
    (h : (write bytes s).Ends host (.ok (), v)) :
    ∃ y, v.writer.written = y ++ dropBlank bytes := by
  obtain ⟨x, hx⟩ := exists_append_dropBlank bytes
  rw [write] at h
  split at h
  · next he =>
    have hb : dropBlank bytes = .empty := by
      rw [← ByteArray.size_eq_zero_iff]
      have hsize := congrArg ByteArray.size hx
      rw [ByteArray.size_append, beq_iff_eq.mp he] at hsize
      omega
    exact ⟨v.writer.written, by rw [hb, ByteArray.append_empty]⟩
  · rw [read_bind, hx] at h
    exact writeLevel_delivers (dropBlank_dropBlank bytes) (Nat.le_refl _) hs h

/-! ### What is kept -/

/-- A step goes on from what its first part left. -/
theorem ends_of_bind {m : Walk α} {f : α → Walk β} {a : α} {r : Outcome β × State}
    (h : ((m >>= f) s).Ends host r) (hm : (m s).Ends host (.ok a, v)) : (f a v).Ends host r := by
  rw [bind_run] at h
  obtain ⟨x, hx, hr⟩ := h.of_bind
  cases hx.unique hm
  exact hr

/-- Nodes go on from what those before them left. -/
theorem ends_of_each_append {dot : Value} {done rest : List Node} {r : Outcome Unit × State}
    (h : (each host dot (done ++ rest) s).Ends host r)
    (hd : (each host dot done s).Ends host (.ok (), v)) : (each host dot rest v).Ends host r := by
  induction done generalizing s with
  | nil =>
    cases hd
    exact h
  | cons n done ih =>
    rw [List.cons_append, each, setPlace, modify_bind] at h
    rw [each, setPlace, modify_bind] at hd
    obtain ⟨_, u, hn, hd⟩ := of_bind_ends_ok hd
    exact ih (ends_of_bind (f := fun _ ↦ each host dot (done ++ rest)) h hn) hd

end Walk

/-- What reaches the output in the course of a task is kept by a writer: what was there when the
task ended, and, of a walk of nodes, what was there when some of them had been walked. -/
structure Request.Kept (host : Host) (request : Request) (w : Writer) : Prop where
  ended : ∃ r, (Walk.start host request.1 request.2).Ends host r ∧ r.2.writer.Grows w
  walked : ∀ done rest dot v,
    request.1 = .walk (done ++ rest) dot ∨ request.1 = .enter (done ++ rest) dot →
      (Walk.each host dot done request.2).Ends host (.ok (), v) → v.writer.Grows w

/-- Where a render ends, all that has reached its output at some moment is kept. -/
theorem Moment.kept {start request : Request} {below : List Request} {last : Reply}
    (h : Moment host start (request :: below)) (hs : start.2.HoldsText)
    (hl : (Walk.start host start.1 start.2).Ends host last)
    (hr : ∀ q ∈ request :: below, q.1.isRender = false) : request.Kept host last.2.writer := by
  obtain ⟨r, hend, hgrows⟩ := h.exists_end hs hl hr
  refine ⟨⟨r, hend, hgrows⟩, ?_⟩
  intro done rest dot v htask hv
  have htext := h.holdsText hs request List.mem_cons_self
  have walks : Walk.start host request.1 =
      (Walk.each host dot (done ++ rest) >>= fun _ ↦ Pure.pure .invalid) := by
    rcases htask with ht | ht <;> rw [ht] <;> rfl
  rw [walks, Walk.bind_run] at hend
  obtain ⟨⟨o, u⟩, hu, hend⟩ := hend.of_bind
  have hr : r.2 = u := by
    cases o with
    | ok _ | error _ | panic _ =>
      cases hend
      rfl
  have before := (Walk.each_made done).composed.adds htext hv
  have after := (Walk.each_made rest).composed.adds before.1 (Walk.ends_of_each_append hu hv)
  rw [hr] at hgrows
  exact after.2.trans hgrows

/-- A nested render that fails in a template that yields to it leaves nothing in the output. -/
theorem NestedCall.yield_ends_error {c : NestedCall} {e : EvalError} {v : State}
    (h : c.run.Ends host (.error e, v)) :
    ((Walk.renderNested c.name c.data >>= Walk.write) c.caller).Ends host
      (.error e, { c.caller with resources := v.resources }) := by
  rw [← c.isolated.ends _ _ h]
  exact Walk.bind_ends_error h

variable {e : Executor} {tree : Tree} {data : Value} {w : Writer} {r : Resources}

private theorem EvalError.isWrappable_of_isExit {x : EvalError} (h : x.isExit = true) :
    x.isWrappable = false := by
  have hs : x.signal = some .exit := eq_of_beq h
  rw [isWrappable, hs]
  simp

private theorem Executor.conclude_exit {x : EvalError} (hc : e.captures = true)
    (hx : x.isExit = true) : e.conclude x w = (.ok, w) := by
  rw [conclude, hc, hx]
  rfl

/-! ### A template that exits -/

/-- The node that exits. -/
def Node.exit : Node := .action ⟨0, 0⟩ (.ofForms [[.identifier "exit"]])

/-- The node that yields to another template. -/
def Node.yieldTo (name : String) : Node :=
  .action ⟨0, 0⟩ (.ofForms [[.identifier "tpl_yield", .text name]])

/-- A template that has a text and then hands on to another one. -/
def handingTree (n : Node) : Tree := .ofNodes "t" [.text ⟨0, 0⟩ "A", n]

/-- The executor of the template, beside one that exits between two texts. -/
def handingExecutor (n : Node) : Executor :=
  let set := ((TemplateSet.empty "t").add
    (.ofNodes "u" [.text ⟨0, 0⟩ "B", .exit, .text ⟨0, 0⟩ "C"])).2
  .root set ⟨"t", some (handingTree n), .empty⟩ 0

/-- What a template has written before it exits is kept where the template is called, and lost where
another one yields to it. -/
theorem not_kept_yielded : ∃ budget called yielded,
    (handingExecutor (.template ⟨0, 0⟩ "u" none)).finish .empty budget .invalid .unlimited
        (.initial .nil) = some called ∧
      called.verdict = .ok ∧ called.writer.written = "AB".toUTF8 ∧
      (handingExecutor (.yieldTo "u")).finish .empty budget .invalid .unlimited
        (.initial .nil) = some yielded ∧
      yielded.verdict = .ok ∧ yielded.writer.written = "A".toUTF8 :=
  ⟨4, _, _, rfl, rfl, rfl, rfl, rfl, rfl⟩

private theorem called_exits : ∃ request below,
    Moment .empty ((handingExecutor (.template ⟨0, 0⟩ "u" none)).request
        (handingTree (.template ⟨0, 0⟩ "u" none)) .invalid .unlimited (.initial .nil))
      (request :: below) ∧
      (∀ q ∈ request :: below, q.1.isRender = false) ∧ request.1.isEnter = true ∧
      (⟨Walk.start .empty request.1, request.2⟩ : Act).Fails .empty .exit :=
  ⟨(.enter _ _, _), _, .ask .start (.first rfl),
    List.forall_mem_cons.mpr ⟨rfl, List.forall_mem_singleton.mpr rfl⟩, rfl, _, .value rfl⟩

/-! ### Exits in general -/

/-- A render in which a template exits returns without an error, if the functions of the host pass
on errors and the executor captures exits. What has reached the output of the render at any moment
is kept, of whatever task: walks, called templates, and invocations whose output is not asked for.
That is all content that was written, unless it was collected. A nested render has output of its
own, which is lost where the exit comes from there: to yield to it adds nothing. -/
theorem exit_keeps {request : Request} {below : List Request} {part : Act} {x : EvalError}
    (hp : host.PassesOn) (he : e.raw = none) (hc : e.captures = true)
    (ht : e.template.tree = some tree)
    (running : Moment host (e.request tree data w r) (request :: below))
    (hpart : Parts host ⟨Walk.start host request.1, request.2⟩ part)
    (hx : x.isExit = true) (raised : part.Fails host x) :
    ∃ result, (∃ budget, e.finish host budget data w r = some result) ∧ result.verdict = .ok ∧
      (∀ q rest, Moment host (e.request tree data w r) (q :: rest) →
        (∀ p ∈ q :: rest, p.1.isRender = false) → q.Kept host result.writer) ∧
      (∀ bytes s v, s.Direct → (Walk.write bytes s).Ends host (.ok (), v) →
        ∃ y, v.writer.written = y ++ dropBlank bytes) ∧
      ∀ (c : NestedCall) error v, c.run.Ends host (.error error, v) →
        ((Walk.renderNested c.name c.data >>= Walk.write) c.caller).Ends host
          (.error error, { c.caller with resources := v.resources }) := by
  obtain ⟨x', hpass, u, hend⟩ := Parts.relays hp (running.parts.trans hpart) x
    (EvalError.isWrappable_of_isExit hx) raised
  obtain ⟨budget, hrender⟩ := Executor.exists_render_eq he ht hend
  have hx' : x'.isExit = true := by
    rw [EvalError.isExit, hpass.signal]
    exact hx
  have hfinish : e.finish host budget data w r = some ⟨.ok, u.writer, u.resources⟩ := by
    rw [Executor.finish, hrender]
    show some (Rendered.mk (e.conclude x' u.writer).1 (e.conclude x' u.writer).2 u.resources) = _
    rw [Executor.conclude_exit hc hx']
  refine ⟨_, ⟨budget, hfinish⟩, rfl, ?_, ?_, ?_⟩
  · intro q rest hq hr
    exact hq.kept (State.holdsText_of_nil rfl) hend hr
  · intro bytes s v hs hv
    exact Walk.write_delivers hs hv
  · intro c error v hv
    exact c.yield_ends_error hv

/-- The template that exits is called by another one. -/
theorem exit_keeps_called : ∃ request below part result budget,
    Host.empty.PassesOn ∧
      Moment .empty ((handingExecutor (.template ⟨0, 0⟩ "u" none)).request
          (handingTree (.template ⟨0, 0⟩ "u" none)) .invalid .unlimited (.initial .nil))
        (request :: below) ∧ request.1.isEnter = true ∧
      Parts .empty ⟨Walk.start .empty request.1, request.2⟩ part ∧ part.Fails .empty .exit ∧
      (handingExecutor (.template ⟨0, 0⟩ "u" none)).finish .empty budget .invalid .unlimited
        (.initial .nil) = some result ∧ result.verdict = .ok ∧
      request.Kept .empty result.writer := by
  have hp : Host.empty.PassesOn := fun _ _ _ ↦ .finish _
  obtain ⟨request, below, running, hr, henter, raised⟩ := called_exits
  obtain ⟨result, ⟨budget, hfinish⟩, hv, hkept, -⟩ :=
    exit_keeps hp rfl rfl rfl running .refl rfl raised
  exact ⟨request, below, _, result, budget, hp, running, henter, .refl, raised, hfinish, hv,
    hkept request below running hr⟩

end TextTemplate
