import TextTemplate.Proofs.Emission
import TextTemplate.Proofs.Ending
import TextTemplate.Proofs.Nesting

/-!
# Renders of static nodes

The walk of static nodes changes the sinks and the writer as their output does (`emitsBelow`). The
proof is an induction on what the nodes and the sinks reserve for walks: when the first content of
a wrap arrives, the nodes before it are walked with the sinks below that wrap, which reserve less.
-/

set_option autoImplicit false

namespace TextTemplate

variable {α : Type} {host : Host}

/-- What of a state outlives a render. -/
def State.outlasting (s : State) : Writer × Resources := (s.writer, s.resources)

/-- A run writes bytes and leaves the sinks as given. Where the writer does not take the bytes, the
run fails with what the writer says. -/
inductive Run.Emits (host : Host) (s : State) (sinks : List Sink) (out : ByteArray)
    (x : Run (Outcome Unit × State)) : Prop where
  | fits {w : Writer} {place : Option (Span × Subject)} :
      s.writer.write out = (w, none) →
      x.Ends host (.ok (), { s with sinks := sinks, writer := w, place := place }) →
        Emits host s sinks out x
  | fails {w : Writer} {fault : String} {u : State} :
      s.writer.write out = (w, some fault) → u.outlasting = (w, s.resources) →
      x.Ends host (.error (.write fault), u) → Emits host s sinks out x

namespace Run.Emits

variable {s v : State} {sinks before : List Sink} {a b : ByteArray} {m : Walk Unit}
  {x : Run (Outcome Unit × State)}

/-- The sinks and the place with which a run begins do not count. -/
theorem anywhere {place : Option (Span × Subject)}
    (h : x.Emits host { s with sinks := before, place := place } sinks a) :
    x.Emits host s sinks a := by
  cases h with
  | fits hw h => exact .fits hw h
  | fails hw hu h => exact .fails hw hu h

/-- A run that changes the sinks alone writes nothing. -/
theorem silent (s : State) (sinks : List Sink) :
    (Run.done (.ok (), { s with sinks := sinks })).Emits host s sinks .empty :=
  .fits s.writer.write_empty (.done _)

/-- What comes after a run that writes is another run that writes, or the error stands. -/
theorem andThen {f : Outcome Unit × State → Run (Outcome Unit × State)}
    (hx : x.Emits host s before a)
    (ok : ∀ w place,
      (f (.ok (), { s with sinks := before, writer := w, place := place })).Emits host
        { s with sinks := before, writer := w, place := place } sinks b)
    (error : ∀ e u, ∃ u', f (.error e, u) = .done (.error e, u') ∧ u'.outlasting = u.outlasting) :
    (x.bind f).Emits host s sinks (a ++ b) := by
  cases hx with
  | @fails w fault u hw hu hx =>
    obtain ⟨u', hd, hu'⟩ := error (.write fault) u
    refine .fails ?_ (hu'.trans hu) (hx.bind (.value hd))
    rw [Writer.write_append, hw]
  | fits hw hx =>
    cases ok _ _ with
    | fits hw' hf =>
      refine .fits ?_ (hx.bind hf)
      rw [Writer.write_append, hw]
      exact hw'
    | fails hw' hu hf =>
      refine .fails ?_ hu (hx.bind hf)
      rw [Writer.write_append, hw]
      exact hw'

private theorem bind {k : Unit → Walk Unit} (hm : (m v).Emits host s before a)
    (hk : ∀ w place, (k () { s with sinks := before, writer := w, place := place }).Emits host
      { s with sinks := before, writer := w, place := place } sinks b) :
    ((m >>= k) v).Emits host s sinks (a ++ b) := by
  rw [Walk.bind_run]
  exact hm.andThen hk fun e u ↦ ⟨u, rfl, rfl⟩

/-- After a step whose error is looked at, either the next step writes or the error stands. -/
theorem attempt_bind {k : Except EvalError Unit → Walk Unit} (hm : (m v).Emits host s before a)
    (ok : ∀ w place, (k (.ok ()) { s with sinks := before, writer := w, place := place }).Emits host
      { s with sinks := before, writer := w, place := place } sinks b)
    (error : ∀ e u, ∃ u', k (.error e) u = .done (.error e, u') ∧ u'.outlasting = u.outlasting) :
    ((m.attempt >>= k) v).Emits host s sinks (a ++ b) := by
  rw [Walk.bind_run, Walk.attempt, Run.bind_assoc]
  exact hm.andThen ok error

private theorem after {f : State → State} (hm : (m v).Emits host s before a)
    (hf : ∀ w place, ∃ place', f { s with sinks := before, writer := w, place := place } =
      { s with sinks := sinks, writer := w, place := place' })
    (hout : ∀ u, (f u).outlasting = u.outlasting) : ((m.after f) v).Emits host s sinks a := by
  cases hm with
  | fails hw hu hm => exact .fails hw ((hout _).trans hu) (Walk.after_ends hm trivial)
  | @fits w place hw hm =>
    obtain ⟨place', hp⟩ := hf w place
    have h := Walk.after_ends (f := f) hm trivial
    rw [hp] at h
    exact .fits hw h

private theorem inScope (hm : (m s).Emits host s sinks a) :
    (Walk.inScope m s).Emits host s sinks a := by
  rw [Walk.inScope, Walk.read_bind]
  refine hm.after ?_ fun _ ↦ rfl
  intro w place
  refine ⟨place, ?_⟩
  simp only [List.take_length]

/-- A failure of the output is passed on as it is. -/
theorem locate (hm : (m v).Emits host s sinks a) :
    (m.mapError State.locate v).Emits host s sinks a := by
  cases hm with
  | fits hw hm => exact .fits hw (Walk.mapError_ends hm)
  | fails hw hu hm => exact .fails hw hu (Walk.mapError_ends_error hm)

private theorem nodes {nodes : List Node} {dot : Value}
    (h : (Walk.each host dot nodes v).Emits host s sinks a) :
    (Walk.nodes nodes dot v).Emits host s sinks a := by
  cases h with
  | fits hw h => exact .fits hw (Walk.perform_ends (Walk.bind_ends h (.done _)))
  | fails hw hu h => exact .fails hw hu (Walk.perform_ends_error (Walk.bind_ends_error h))

end Run.Emits

/-- Static nodes write their output where they and the sinks reserve less than a number of walks. -/
def EmitsBelow (host : Host) (n : Nat) : Prop :=
  ∀ (nodes : List Node) (dot : Value) (s : State), allStatic nodes = true →
    s.sinks.all Sink.isStatic = true → costOf 0 nodes + sinksReserve 0 s.sinks < n →
      (Walk.each host dot nodes s).Emits host s (emit (outputOf nodes) s.sinks).1
        (emit (outputOf nodes) s.sinks).2

namespace Walk

/-! ### What a sink makes of bytes -/

section

variable {s : State} {above rest : List Sink} {w : WrapSink} {bytes : ByteArray}

/-- The walk of the nodes before the content of a wrap. -/
def leading (level : Nat) (w : WrapSink) : Walk Unit :=
  match w.before with
  | some nodes => below level nodes w.dot
  | none => pure ()

private theorem sinkAt_bind {sink : Sink} {k : Sink → Walk α}
    (hs : s.sinks = above ++ sink :: rest) : (sinkAt rest.length >>= k) s = k sink s := by
  rw [bind_run, sinkAt, hs, Stack.get?_append_cons]
  rfl

/-- A buffer holds what is written to it. -/
theorem writeLevel_buffer {held : ByteArray} (hs : s.sinks = above ++ .buffer held :: rest) :
    writeLevel (rest.length + 1) bytes s =
      .done (.ok (), { s with sinks := above ++ .buffer (held ++ bytes) :: rest }) := by
  rw [writeLevel, sinkAt_bind hs]
  simp only [modify, hs, Stack.modify_append_cons, Sink.append]

/-- A wrap that has been triggered passes on what is written to it. -/
theorem writeLevel_triggered (hs : s.sinks = above ++ .wrap w :: rest) (ht : w.triggered = true) :
    writeLevel (rest.length + 1) bytes s = writeLevel rest.length bytes s := by
  rw [writeLevel, sinkAt_bind hs]
  simp only [ht, if_true]

/-- A wrap that has not been triggered holds blanks back. -/
theorem writeLevel_blank (hs : s.sinks = above ++ .wrap w :: rest) (ht : w.triggered = false)
    (hb : hasContent bytes = false) :
    writeLevel (rest.length + 1) bytes s =
      .done (.ok (), { s with sinks := above ++ .wrap (w.holding (w.collect bytes)) :: rest }) := by
  rw [writeLevel, sinkAt_bind hs]
  simp only [ht, w.receive_eq, hb, Bool.false_eq_true, if_false]
  rw [modify_bind, hs, Stack.modify_append_cons]
  rfl

/-- Content triggers a wrap: its beginning goes first, then what it has held back. -/
theorem writeLevel_content (hs : s.sinks = above ++ .wrap w :: rest) (ht : w.triggered = false)
    (hb : hasContent bytes = true) :
    writeLevel (rest.length + 1) bytes s =
      (leading rest.length w >>= fun _ ↦ writeLevel rest.length (w.collect bytes))
        { s with sinks := above ++ .wrap w.opened :: rest } := by
  rw [writeLevel, sinkAt_bind hs]
  simp only [ht, w.receive_eq, hb, Bool.false_eq_true, if_false, if_true]
  rw [modify_bind, hs, Stack.modify_append_cons, leading]
  cases w.before with
  | none | some nodes => rfl

end

private theorem writeBottom_emits {s : State} (bytes : ByteArray) :
    (writeBottom bytes s).Emits host s s.sinks bytes := by
  rw [writeBottom]
  cases hw : s.writer.write bytes with
  | mk w fault =>
    cases fault with
    | none => exact .fits hw (.done _)
    | some fault => exact .fails hw rfl (.done _)

end Walk

/-- A wrap writes what its body and then one of the lists after it write. -/
theorem Run.Emits.wrap {s : State} {strip : Bool} {body : List Node}
    {before after otherwise : Option (List Node)} {dot : Value} {w : WrapSink}
    {rest sinks : List Sink} {a b : ByteArray}
    (hbody : (Walk.each host dot body (s.pushSink (.wrap (.fresh strip before dot)))).Emits host
      (s.pushSink (.wrap (.fresh strip before dot))) (.wrap w :: rest) a)
    (hl : rest.length = s.sinks.length)
    (hend : ∀ writer place, (Walk.optional (if w.triggered then after else otherwise) dot
      { s with sinks := rest, writer := writer, place := place }).Emits host
        { s with sinks := rest, writer := writer, place := place } sinks b) :
    (Walk.wrap strip body before after otherwise dot s).Emits host s sinks (a ++ b) := by
  rw [Walk.wrap]
  refine inScope ?_
  rw [Walk.read_bind, Walk.modify_bind]
  refine hbody.anywhere.nodes.attempt_bind ?_ fun e u ↦ ⟨_, rfl, rfl⟩
  intro writer place
  have hkept : Stack.oldest (.wrap w :: rest) (s.sinks.length + 1) = .wrap w :: rest :=
    Stack.oldest_of_length_le (Nat.succ_le_succ (Nat.le_of_eq hl))
  rw [Walk.modify_bind, State.truncateSinks, hkept]
  exact (hend writer place).anywhere

private theorem sinksReserve_emit (bytes : ByteArray) (sinks : List Sink) :
    sinksReserve 0 (emit bytes sinks).1 = sinksReserve 0 sinks := by
  rw [← sinksReserve_fresh, fresh_emit, sinksReserve_fresh]

namespace EmitsBelow

variable {n : Nat} {s : State} {above sinks : List Sink}

private theorem below (ih : EmitsBelow host n) {nodes : List Node} {dot : Value}
    (hs : s.sinks = above ++ sinks) (hn : allStatic nodes = true)
    (hsinks : sinks.all Sink.isStatic = true) (hlt : costOf 0 nodes + sinksReserve 0 sinks < n) :
    (Walk.below sinks.length nodes dot s).Emits host s
      (above ++ (emit (outputOf nodes) sinks).1) (emit (outputOf nodes) sinks).2 := by
  have htruncate : s.truncateSinks sinks.length = { s with sinks := sinks } := by
    rw [State.truncateSinks, hs, Stack.oldest_append]
  rw [Walk.below, Walk.read_bind, Walk.modify_bind, htruncate, hs, Stack.above_append]
  have hnodes := ih nodes dot { s with sinks := sinks } hn hsinks hlt
  refine hnodes.nodes.inScope.anywhere.after ?_ fun _ ↦ rfl
  intro w place
  refine ⟨s.place, ?_⟩
  rw [Stack.oldest_of_length_le (Nat.le_of_eq (length_emit ..))]

private theorem leading (ih : EmitsBelow host n) {w : WrapSink} (hs : s.sinks = above ++ sinks)
    (hw : allStatic? w.before = true) (hsinks : sinks.all Sink.isStatic = true)
    (hlt : costOf? 0 w.before + sinksReserve 0 sinks < n) :
    (Walk.leading sinks.length w s).Emits host s
      (above ++ (emit (outputOf? w.before) sinks).1) (emit (outputOf? w.before) sinks).2 := by
  rw [Walk.leading]
  cases hb : w.before with
  | none =>
    rw [outputOf?, emit_empty, ← hs]
    exact .silent s _
  | some nodes =>
    rw [hb] at hw hlt
    exact ih.below hs hw hsinks hlt

private theorem writeLevel (ih : EmitsBelow host n) (bytes : ByteArray)
    (hs : s.sinks = above ++ sinks) (hsinks : sinks.all Sink.isStatic = true)
    (hlt : sinksReserve 0 sinks < n) :
    (Walk.writeLevel sinks.length bytes s).Emits host s (above ++ (emit bytes sinks).1)
      (emit bytes sinks).2 := by
  generalize hl : sinks.length = level
  induction level generalizing sinks above bytes s with
  | zero =>
    obtain rfl := List.eq_nil_of_length_eq_zero hl
    rw [emit, ← hs]
    exact Walk.writeBottom_emits bytes
  | succ level ihl =>
    obtain ⟨sink, rest, rfl⟩ := List.exists_cons_of_length_eq_add_one hl
    obtain rfl : rest.length = level := Nat.succ.inj hl
    rw [List.all_cons, Bool.and_eq_true] at hsinks
    rw [sinksReserve, Sink.reserve.eq_def] at hlt
    have hrest : sinksReserve 0 rest < n := by omega
    cases sink with
    | buffer held =>
      rw [Walk.writeLevel_buffer hs, emit]
      exact .silent s _
    | wrap w =>
      cases ht : w.triggered with
      | true =>
        have hs' : s.sinks = (above ++ [.wrap w]) ++ rest := by simp [hs]
        rw [Walk.writeLevel_triggered hs ht, emit_wrap_triggered ht]
        simpa using ihl bytes hs' hsinks.2 hrest rfl
      | false =>
        cases hb : hasContent bytes with
        | false =>
          rw [Walk.writeLevel_blank hs ht hb, emit_wrap_blank ht hb]
          exact .silent s _
        | true =>
          rw [Walk.writeLevel_content hs ht hb, emit_wrap_content ht hb, emit_append]
          rw [List.append_cons above _ rest, List.append_cons above _ (emit _ _).1]
          refine ((ih.leading rfl hsinks.1 hsinks.2 hlt).bind ?_).anywhere
          intro v place
          refine ihl (w.collect bytes) rfl ?_ ?_ (length_emit ..)
          · rw [isStatic_emit, hsinks.2]
          · rw [sinksReserve_emit]
            exact hrest

private theorem write (ih : EmitsBelow host n) (bytes : ByteArray)
    (hsinks : s.sinks.all Sink.isStatic = true) (hlt : sinksReserve 0 s.sinks < n) :
    (Walk.write bytes s).Emits host s (emit bytes s.sinks).1 (emit bytes s.sinks).2 := by
  rw [Walk.write]
  split
  · next h =>
    obtain rfl : bytes = .empty := by
      rw [← ByteArray.size_eq_zero_iff]
      exact eq_of_beq h
    rw [emit_empty]
    exact .silent s _
  · rw [Walk.read_bind]
    exact ih.writeLevel bytes (List.nil_append s.sinks).symm hsinks hlt

private theorem optional (ih : EmitsBelow host n) {nodes : Option (List Node)} {dot : Value}
    (hn : allStatic? nodes = true) (hsinks : s.sinks.all Sink.isStatic = true)
    (hlt : costOf? 0 nodes + sinksReserve 0 s.sinks < n) :
    (Walk.optional nodes dot s).Emits host s (emit (outputOf? nodes) s.sinks).1
      (emit (outputOf? nodes) s.sinks).2 := by
  cases nodes with
  | none =>
    rw [outputOf?, emit_empty]
    exact .silent s _
  | some nodes => exact (ih nodes dot s hn hsinks hlt).nodes

private theorem wrap (ih : EmitsBelow host n) {strip : Bool} {body : List Node}
    {before after otherwise : Option (List Node)} {dot : Value} (hbody : allStatic body = true)
    (hbefore : allStatic? before = true) (hafter : allStatic? after = true)
    (hotherwise : allStatic? otherwise = true) (hsinks : s.sinks.all Sink.isStatic = true)
    (hlt : costOf 0 body + costOf? 0 before + costOf? 0 after + costOf? 0 otherwise +
      sinksReserve 0 s.sinks < n) :
    (Walk.wrap strip body before after otherwise dot s).Emits host s
      (emit (wrapped strip (outputOf body) (outputOf? before) (outputOf? after)
        (outputOf? otherwise)) s.sinks).1
      (emit (wrapped strip (outputOf body) (outputOf? before) (outputOf? after)
        (outputOf? otherwise)) s.sinks).2 := by
  let fresh : WrapSink := .fresh strip before dot
  have hfresh : ((Sink.wrap fresh) :: s.sinks).all Sink.isStatic = true := by
    rw [List.all_cons, hsinks, Bool.and_true]
    exact hbefore
  have hreserve : sinksReserve 0 (.wrap fresh :: s.sinks) =
      costOf? 0 before + sinksReserve 0 s.sinks := rfl
  have hb := ih body dot (s.pushSink (.wrap fresh)) hbody hfresh (by
    rw [State.pushSink, hreserve]
    omega)
  rw [State.pushSink] at hb
  rw [wrapped]
  cases hc : hasContent (outputOf body) with
  | false =>
    rw [emit_wrap_blank rfl hc] at hb
    rw [if_neg Bool.false_ne_true, ← ByteArray.empty_append (b := (emit _ _).2)]
    refine Run.Emits.wrap hb rfl fun w place ↦ ?_
    exact ih.optional hotherwise hsinks (by
      show costOf? 0 otherwise + sinksReserve 0 s.sinks < n
      omega)
  | true =>
    have hcollect : fresh.collect (outputOf body) =
        if strip then dropBlank (outputOf body) else outputOf body := ByteArray.empty_append
    rw [emit_wrap_content rfl hc, hcollect] at hb
    rw [if_pos rfl, emit_append]
    refine Run.Emits.wrap hb (length_emit ..) fun w place ↦ ?_
    refine ih.optional hafter ?_ ?_
    · show (emit _ s.sinks).1.all Sink.isStatic = true
      rw [isStatic_emit, hsinks]
    · show costOf? 0 after + sinksReserve 0 (emit _ s.sinks).1 < n
      rw [sinksReserve_emit]
      omega

/-- One node writes its output. -/
theorem node (ih : EmitsBelow host n) {x : Node} {dot : Value} (hx : x.isStatic = true)
    (hsinks : s.sinks.all Sink.isStatic = true) (hle : x.cost 0 + sinksReserve 0 s.sinks ≤ n) :
    (Walk.node host dot x s).Emits host s (emit x.output s.sinks).1 (emit x.output s.sinks).2 := by
  cases x with
  | text span text =>
    rw [Node.cost] at hle
    exact ih.write text.toUTF8 hsinks (by omega)
  | list span nodes =>
    rw [Node.cost] at hle
    exact (ih nodes dot s hx hsinks (by omega)).nodes
  | wrap span pipe body before after otherwise =>
    rw [Node.isStatic, Bool.and_eq_true, Bool.and_eq_true, Bool.and_eq_true] at hx
    obtain ⟨⟨⟨hbody, hbefore⟩, hafter⟩, hotherwise⟩ := hx
    rw [Node.cost] at hle
    exact ih.wrap hbody hbefore hafter hotherwise hsinks (by omega)
  | action | branch | template | block => cases hx

end EmitsBelow

private theorem Node.cost_pos (n : Node) : 0 < n.cost 0 := by
  cases n with
  | text | action | branch | template | list | wrap => rw [cost]; omega
  | block kind => cases kind <;> rw [cost] <;> omega

/-- Static nodes write their output to the sinks of any state. -/
theorem emitsBelow (host : Host) (n : Nat) : EmitsBelow host n := by
  induction n with
  | zero => exact fun _ _ _ _ _ h ↦ absurd h (Nat.not_lt_zero _)
  | succ n ih =>
    intro nodes dot s hn hsinks hlt
    cases nodes with
    | nil =>
      rw [outputOf, emit_empty]
      exact .silent s _
    | cons x rest =>
      rw [allStatic, Bool.and_eq_true] at hn
      rw [costOf] at hlt
      have hpos := x.cost_pos
      rw [Walk.each, outputOf, emit_append]
      have hle : x.cost 0 + sinksReserve 0 s.sinks ≤ n := by omega
      have hx : (Walk.node host dot x { s with place := some (x.span, .node x) }).Emits host
        _ _ _ := ih.node hn.1 hsinks hle
      refine (hx.locate.bind ?_).anywhere
      intro w place
      refine ih rest dot _ hn.2 ?_ ?_
      · show (emit _ s.sinks).1.all Sink.isStatic = true
        rw [isStatic_emit, hsinks]
      · show costOf 0 rest + sinksReserve 0 (emit _ s.sinks).1 < n
        rw [sinksReserve_emit]
        omega

/-! ### Renders -/

/-- What a write tells of how a render ended. -/
def Verdict.ofWrite : Option String → Verdict
  | none => .ok
  | some fault => .error (.write fault)

/-- The render of a static template ends and writes the output of its nodes, however their text is
cut, as far as the writer takes it. -/
theorem static_rendered {host : Host} {e : Executor} {tree : Tree} {nodes : List Node}
    (he : e.raw = none) (ht : e.template.tree = some tree) (hs : allStatic nodes = true)
    (hc : Recut nodes tree.root) (data : Value) (w : Writer) (r : Resources) :
    ∃ budget, e.finish host budget data w r =
      some ⟨.ofWrite (w.write (outputOf nodes)).2, (w.write (outputOf nodes)).1, r⟩ := by
  rw [hc.output_eq]
  rw [hc.allStatic_eq] at hs
  have h := emitsBelow host (costOf 0 tree.root + 1) tree.root data (.initial e data w r) hs rfl
    (Nat.lt_succ_self _)
  cases h with
  | fits hw h =>
    obtain ⟨budget, hb⟩ := Executor.exists_render_eq he ht (Walk.bind_ends h (.done _))
    refine ⟨budget, ?_⟩
    rw [Executor.finish, hb, show w.write (outputOf tree.root) = _ from hw]
    rfl
  | @fails w' fault u hw hu h =>
    obtain ⟨budget, hb⟩ := Executor.exists_render_eq he ht (Walk.bind_ends_error h)
    refine ⟨budget, ?_⟩
    obtain ⟨hwriter, hresources⟩ := Prod.mk.inj hu
    rw [Executor.finish, hb, show w.write (outputOf tree.root) = _ from hw]
    simp only [Executor.settle, hwriter, hresources]
    rfl

/-- A wrap that strips, whose nodes before and whose body hold a wrap each. -/
def nestedWrap : Node :=
  .wrap ⟨0, 0⟩ (some (.ofForms [[.identifier "strip"]]))
    [.text ⟨0, 0⟩ " ", .text ⟨0, 0⟩ "x",
      .wrap ⟨0, 0⟩ none [.text ⟨0, 0⟩ " "] none none (some [.text ⟨0, 0⟩ "e"])]
    (some [.wrap ⟨0, 0⟩ none [.text ⟨0, 0⟩ " b"] (some [.text ⟨0, 0⟩ "<"]) (some [.text ⟨0, 0⟩ ">"])
      none])
    (some [.text ⟨0, 0⟩ "]"]) none

/-- The executor of a template with a text in two pieces and a wrap. -/
def nestedWrapExecutor : Executor :=
  .root (.empty "t") ⟨"t", some (.ofNodes "t" [.text ⟨0, 0⟩ "a", .text ⟨0, 0⟩ "b", nestedWrap]),
    .empty⟩ 0

/-- A wrap in a wrap after a text, which is cut in two on the other side. -/
theorem static_rendered_nested :
    allStatic [.text ⟨0, 0⟩ "ab", nestedWrap] = true ∧
    Recut [.text ⟨0, 0⟩ "ab", nestedWrap] [.text ⟨0, 0⟩ "a", .text ⟨0, 0⟩ "b", nestedWrap] ∧
    ∃ budget, nestedWrapExecutor.finish .empty budget .invalid .unlimited (.initial .nil) =
      some ⟨.ok, ⟨"ab< b>xe]".toUTF8, none⟩, .initial .nil⟩ := by
  have hs : allStatic [.text ⟨0, 0⟩ "ab", nestedWrap] = true := rfl
  have hc : Recut [.text ⟨0, 0⟩ "ab", nestedWrap]
      [.text ⟨0, 0⟩ "a", .text ⟨0, 0⟩ "b", nestedWrap] :=
    .append (.text ⟨0, 0⟩ ⟨0, 0⟩ ⟨0, 0⟩ "a" "b") (.refl [nestedWrap])
  have hout : outputOf [.text ⟨0, 0⟩ "ab", nestedWrap] = "ab< b>xe]".toUTF8 := by rfl
  refine ⟨hs, hc, ?_⟩
  have h := @static_rendered .empty nestedWrapExecutor _ _ rfl rfl hs hc .invalid .unlimited
    (.initial .nil)
  rw [hout] at h
  exact h

end TextTemplate
