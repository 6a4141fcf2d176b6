import TextTemplate.Proofs.WhiteSpace

/-!
# Wraps around empty bodies

A body is empty if its text is white space by the Unicode notion. Wraps pass over an empty body
unless it has odd blanks: the vertical tab, and blanks beyond ASCII (`blank_agrees_iff`).
-/

set_option autoImplicit false

namespace TextTemplate

variable {host : Host}

/-! ### After the body of a wrap -/

namespace Walk

variable {nodes : List Node} {dot : Value} {s u : State} {w : WrapSink}

/-- A run asks for a task first, and where the task has ended it is another run. -/
inductive GoesOn (host : Host) (task : Task) (s : State) : Run (Outcome Unit × State) →
    Run (Outcome Unit × State) → Prop where
  | ended {next : Reply → Run (Outcome Unit × State)} {r : Reply} :
      (start host task s).Ends host r → GoesOn host task s (.ask task s next) (next r)

/-- The last nodes of a wrap. Of the variables only the first ones, which are those at the wrap,
remain. -/
def closing (ns : Option (List Node)) (dot : Value) (mark : Nat) : Walk Unit :=
  (optional ns dot).after fun s ↦ { s with vars := s.vars.take mark }

/-- After its body a wrap goes on with the nodes after the content or with those instead. -/
theorem wrap_goesOn {strip : Bool} {before : Option (List Node)}
    (after otherwise : Option (List Node))
    (h : (each host dot nodes (s.pushSink (.wrap (.fresh strip before dot)))).Ends host (.ok (), u))
    (hu : Above [.wrap w] s.sinks.length u) :
    GoesOn host (.walk nodes dot) (s.pushSink (.wrap (.fresh strip before dot)))
      (wrap strip nodes before after otherwise dot s)
      (closing (if w.triggered then after else otherwise) dot s.vars.length
        { u with sinks := u.sinks.tail }) := by
  have hbody : (start host (.walk nodes dot) (s.pushSink (.wrap (.fresh strip before dot)))).Ends
      host (.ok .invalid, u) := bind_ends h (.done _)
  obtain ⟨rest, hlength, hsinks⟩ := hu
  have hkept : u.truncateSinks (s.sinks.length + 1) = u := by
    rw [State.truncateSinks, Stack.oldest_of_length_le]
    rw [hsinks, List.singleton_append, List.length_cons, hlength]
  have hopen : u.sinks.head?.any Sink.isOpen = w.triggered := by
    rw [hsinks]
    rfl
  -- the run of a wrap is the request for its body, and what follows is computed from the reply
  rw [← hopen, ← congrArg State.sinks hkept]
  exact .ended hbody

end Walk

/-! ### Wraps around white space -/

namespace OpenWrap

/-- The nodes before the content of a wrap are walked at some time. -/
def Fires (host : Host) (start : Request) (x : OpenWrap) : Prop :=
  ∃ request above, Moment host start (request :: above ++ x.moment) ∧ x.Begins above request

variable {x : OpenWrap} {start : Request}

private theorem fires_iff (hb : Node.Blank x.body) (hm : Moment host start x.moment) :
    x.Fires host start ↔ hasContent (outputOf x.body) = true := by
  constructor
  · rintro ⟨request, above, hm, hbegins⟩
    by_contra hc
    have hheld : Walk.IsHeld x.state x.sink x.state.sinks x.dot
        (.walk x.body x.dot, x.state.pushSink (.wrap x.sink)) :=
      ⟨x.body, .empty, x.state.place, rfl, hb, eq_false_of_ne_true hc⟩
    -- without content all that is open in the body has the wrap as a sink
    have hlength := (hheld.above rfl hm).length_sinks
    rw [hbegins.below] at hlength
    omega
  · intro hc
    obtain ⟨above, u, hbefore, hu, habove⟩ := Walk.exists_moment_before (s := x.state)
      (w := x.sink) hb hc rfl rfl hm fun _ _ ha ↦ Walk.asks_bind ha
    refine ⟨_, above, hbefore, ?_, ?_, ?_⟩
    · exact List.forall_mem_cons.mpr ⟨rfl, fun q hq ↦ (habove q hq).1⟩
    · intro q hq
      rw [(habove q hq).2]
      exact Nat.lt_succ_self _
    · rw [hu]

/-- There is a wrap around any nodes. -/
theorem exists_moment (host : Host) (nodes : List Node) :
    ∃ (x : OpenWrap) (start : Request), x.body = nodes ∧ Moment host start x.moment :=
  ⟨⟨false, nodes, [], .invalid, .initial .blank .invalid .unlimited (.initial .nil), []⟩, _, rfl,
    .start⟩

end OpenWrap

namespace Node

/-- A wrap around nodes is passed over: the nodes before the content are not walked, and after the
body those instead are, with nothing but the place changed. -/
structure PassedOver (host : Host) (nodes : List Node) : Prop where
  before : ∀ (x : OpenWrap) (start : Request), x.body = nodes → Moment host start x.moment →
    ¬ x.Fires host start
  otherwise : ∀ (strip : Bool) (before after otherwise : Option (List Node)) (dot : Value)
    (s : State), ∃ place,
      Walk.GoesOn host (.walk nodes dot) (s.pushSink (.wrap (.fresh strip before dot)))
        (Walk.wrap strip nodes before after otherwise dot s)
        (Walk.closing otherwise dot s.vars.length { s with place := place })

/-- A wrap around nodes takes them as content: the nodes before the content are walked, and after a
body that ends those after the content are. -/
structure TakenAsContent (host : Host) (nodes : List Node) : Prop where
  before : ∀ (x : OpenWrap) (start : Request), x.body = nodes → Moment host start x.moment →
    x.Fires host start
  after : ∀ (strip : Bool) (before after otherwise : Option (List Node)) (dot : Value)
    (s u : State),
    (Walk.each host dot nodes (s.pushSink (.wrap (.fresh strip before dot)))).Ends host
      (.ok (), u) →
      Walk.GoesOn host (.walk nodes dot) (s.pushSink (.wrap (.fresh strip before dot)))
        (Walk.wrap strip nodes before after otherwise dot s)
        (Walk.closing after dot s.vars.length { u with sinks := u.sinks.tail })

variable {nodes : List Node}

private theorem PassedOver.not_takenAsContent (h : PassedOver host nodes) :
    ¬ TakenAsContent host nodes := by
  intro ht
  obtain ⟨x, start, hx, hm⟩ := OpenWrap.exists_moment host nodes
  exact h.before x start hx hm (ht.before x start hx hm)

private theorem Blank.passedOver (hb : Blank nodes) (hc : hasContent (outputOf nodes) = false) :
    PassedOver host nodes where
  before x start hx hm := by
    subst hx
    rw [OpenWrap.fires_iff hb hm, hc]
    exact Bool.false_ne_true
  otherwise strip before after otherwise dot s := by
    let fresh : WrapSink := .fresh strip before dot
    obtain ⟨pending, place, h⟩ : ∃ pending place,
        (Walk.each host dot nodes (s.inWrap fresh s.sinks s.place)).Ends host
          (.ok (), s.inWrap (fresh.holding pending) s.sinks place) := Walk.each_held hb hc rfl
    exact ⟨place, Walk.wrap_goesOn after otherwise h ⟨s.sinks, rfl, rfl⟩⟩

private theorem Blank.takenAsContent (hb : Blank nodes) (hc : hasContent (outputOf nodes) = true) :
    TakenAsContent host nodes where
  before x start hx hm := by
    subst hx
    rwa [OpenWrap.fires_iff hb hm]
  after strip before after otherwise dot s u h :=
    Walk.wrap_goesOn after otherwise h (Walk.each_opens hb hc rfl h)

end Node

/-! ### Renders of white space -/

/-- A render ends as the writing of what the walk of its template writes. -/
theorem Executor.finish_of_emits {e : Executor} {tree : Tree} {data : Value} {w : Writer}
    {r : Resources} {sinks : List Sink} {out : ByteArray} (he : e.raw = none)
    (ht : e.template.tree = some tree)
    (h : (Walk.each host data tree.root (.initial e data w r)).Emits host (.initial e data w r)
      sinks out) :
    ∃ budget, e.finish host budget data w r =
      some ⟨.ofWrite (w.write out).2, (w.write out).1, r⟩ := by
  cases h with
  | fits hw h =>
    obtain ⟨budget, hb⟩ := exists_render_eq he ht (Walk.bind_ends h (.done _))
    have hwrite : w.write out = _ := hw
    refine ⟨budget, ?_⟩
    rw [finish, hb, hwrite]
    rfl
  | fails hw hu h =>
    obtain ⟨budget, hb⟩ := exists_render_eq he ht (Walk.bind_ends_error h)
    have hwrite : w.write out = _ := hw
    obtain ⟨hwriter, hresources⟩ := Prod.mk.inj hu
    refine ⟨budget, ?_⟩
    rw [finish, hb, hwrite]
    simp only [settle, hwriter, hresources]
    rfl

/-- White space is rendered as its characters, as far as the writer takes them. -/
theorem Node.Blank.rendered {e : Executor} {tree : Tree} (hb : Blank tree.root) (host : Host)
    (he : e.raw = none) (ht : e.template.tree = some tree) (data : Value) (w : Writer)
    (r : Resources) :
    ∃ budget, e.finish host budget data w r =
      some ⟨.ofWrite (w.write (charsOf tree.root).utf8Encode).2,
        (w.write (charsOf tree.root).utf8Encode).1, r⟩ := by
  rw [← hb.outputOf_eq]
  have h := emitsBelow host (costOf 0 tree.root + 1) tree.root data (.initial e data w r)
    hb.allStatic rfl (Nat.lt_succ_self _)
  exact Executor.finish_of_emits he ht h

/-! ### The vertical tab -/

/-- The executor of a template with a wrap around a vertical tab. -/
def tabExecutor : Executor :=
  .root (.empty "t") ⟨"t", some (.ofNodes "t" [.wrap ⟨0, 0⟩ none [.text ⟨0, 0⟩ "\x0b"]
    (some [.text ⟨0, 0⟩ "<"]) (some [.text ⟨0, 0⟩ ">"]) (some [.text ⟨0, 0⟩ "e"])]), .empty⟩ 0

/-- A body of a vertical tab is empty, but the wrap around it is not passed over. -/
theorem not_passed_over_verticalTab : ∃ budget,
    Node.allBlank [.text ⟨0, 0⟩ "\x0b"] = true ∧
      ¬ Node.PassedOver .empty [.text ⟨0, 0⟩ "\x0b"] ∧
      tabExecutor.finish .empty budget .invalid .unlimited (.initial .nil) =
        some ⟨.ok, ⟨"<\x0b>".toUTF8, none⟩, .initial .nil⟩ := by
  have hb : Node.allBlank [.text ⟨0, 0⟩ "\x0b"] = true := by decide
  have ht : Node.TakenAsContent .empty [.text ⟨0, 0⟩ "\x0b"] :=
    (Node.blank_of_allBlank _ hb).takenAsContent (by decide)
  exact ⟨8, hb, fun hp ↦ hp.not_takenAsContent ht, rfl⟩

/-! ### White space in general -/

/-- An empty body is rendered as its characters, as far as the writer takes them. Wraps around it,
whether they strip or not, pass it over exactly if it has no odd blanks. With an odd blank all of
them take it as content. -/
theorem blank_agrees_iff {nodes : List Node} (hn : Node.allBlank nodes = true) (host : Host) :
    (∀ (e : Executor) (tree : Tree) (data : Value) (w : Writer) (r : Resources), e.raw = none →
      e.template.tree = some tree → tree.root = nodes →
      ∃ budget, e.finish host budget data w r =
        some ⟨.ofWrite (w.write (charsOf nodes).utf8Encode).2,
          (w.write (charsOf nodes).utf8Encode).1, r⟩) ∧
    (Node.PassedOver host nodes ↔ ∀ c ∈ charsOf nodes, Text.isOddBlank c = false) ∧
    (Node.TakenAsContent host nodes ↔ ∃ c ∈ charsOf nodes, Text.isOddBlank c = true) := by
  have hb := Node.blank_of_allBlank nodes hn
  have hodd : (∃ c ∈ charsOf nodes, Text.isOddBlank c = true) ↔
      hasContent (outputOf nodes) = true := by
    rw [hb.hasContent_eq, List.any_eq_true]
  have heven : (∀ c ∈ charsOf nodes, Text.isOddBlank c = false) ↔
      hasContent (outputOf nodes) = false := by
    rw [hb.hasContent_eq, List.any_eq_false]
    simp
  rw [hodd, heven]
  refine ⟨?_, ?_, ?_⟩
  · rintro e tree data w r he ht rfl
    exact hb.rendered host he ht data w r
  · refine ⟨fun hp ↦ ?_, hb.passedOver⟩
    by_contra hc
    exact hp.not_takenAsContent (hb.takenAsContent (eq_true_of_ne_false hc))
  · refine ⟨fun ht ↦ ?_, hb.takenAsContent⟩
    by_contra hc
    exact (hb.passedOver (eq_false_of_ne_true hc)).not_takenAsContent ht

/-- White space without odd blanks. -/
def spaces : List Node := [.text ⟨0, 0⟩ " ", .list ⟨0, 0⟩ [.text ⟨0, 0⟩ "\n\t"]]

/-- The executor of a template with white space. -/
def spacesExecutor : Executor := .root (.empty "t") ⟨"t", some (.ofNodes "t" spaces), .empty⟩ 0

/-- A tree of three kinds of blanks is white space, renders, and is passed over. -/
theorem blank_agrees_iff_spaces :
    Node.allBlank spaces = true ∧
    (∃ budget, spacesExecutor.finish .empty budget .invalid .unlimited (.initial .nil) =
      some ⟨.ok, ⟨" \n\t".toUTF8, none⟩, .initial .nil⟩) ∧
    Node.PassedOver .empty spaces := by
  have hn : Node.allBlank spaces = true := by decide
  obtain ⟨hrender, hpassed, -⟩ := blank_agrees_iff hn .empty
  have hany : (charsOf spaces).any Text.isOddBlank = false := by decide
  have hodd (c : Char) (hc : c ∈ charsOf spaces) : Text.isOddBlank c = false :=
    eq_false_of_ne_true (List.any_eq_false.mp hany c hc)
  exact ⟨hn, hrender spacesExecutor _ .invalid .unlimited (.initial .nil) rfl rfl rfl,
    hpassed.mpr hodd⟩

end TextTemplate
