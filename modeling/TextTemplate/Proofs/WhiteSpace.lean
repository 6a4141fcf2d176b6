import TextTemplate.Proofs.Before
import TextTemplate.Proofs.Pieces
import TextTemplate.Proofs.Validity

/-!
# White space in wraps

White space by the Unicode notion is not always blank by its bytes, which is the notion of wraps:
its odd blanks are content there. White space without odd blanks is held back by the wrap that it is
written to (`Walk.each_held`), and opens nothing but walks of more of it (`Walk.IsHeld.above`). With
an odd blank it opens the wrap (`Walk.each_opens`), which walks the nodes before the content
(`Walk.exists_moment_before`).
-/

set_option autoImplicit false

namespace TextTemplate

variable {host : Host}

/-! ### Blanks -/

namespace Text

/-- The blanks that are no blank bytes: the vertical tab and those beyond ASCII. -/
def isOddBlank (c : Char) : Bool := isBlank c && (c.toNat == 11 || 0x80 ≤ c.toNat)

private theorem bounds_of_isBlank {c : Char} (h : isBlank c = true) (hc : c.toNat < 0x80) :
    9 ≤ c.toNat ∧ c.toNat ≤ 13 ∨ c.toNat = 32 := by
  simp only [isBlank, Bool.or_eq_true, Bool.and_eq_true, decide_eq_true_eq, beq_iff_eq] at h
  omega

private theorem isBlankByte_ofNat {n : Nat} (hn : n < 0x80) (h : 9 ≤ n ∧ n ≤ 13 ∨ n = 32) :
    isBlankByte (UInt8.ofNat n) = !(n == 11) := by
  have hall : ∀ n < 0x80, 9 ≤ n ∧ n ≤ 13 ∨ n = 32 →
      isBlankByte (UInt8.ofNat n) = !(n == 11) := by
    decide
  exact hall n hn h

/-- A blank is content by its bytes just if it is an odd one. -/
theorem hasContent_encode {c : Char} (h : isBlank c = true) :
    hasContent [c].utf8Encode = isOddBlank c := by
  have hnat : c.val.toNat = c.toNat := rfl
  rw [List.utf8Encode_singleton, String.utf8EncodeChar.eq_1, hasContent, List.data_toByteArray,
    isOddBlank, h, Bool.true_and, hnat]
  -- the first byte of a character of several bytes is no blank
  have first {n : Nat} (more : List UInt8) (hn : 32 < n) (hlt : n < 256) (hc : 0x80 ≤ c.toNat) :
      ((UInt8.ofNat n :: more).any fun b ↦ !isBlankByte b) =
        (c.toNat == 11 || decide (0x80 ≤ c.toNat)) := by
    rw [List.any_cons, isBlankByte_of_lt hn hlt, decide_eq_true hc, Bool.or_true]
    rfl
  split
  · next hone =>
    have hlt : c.toNat < 0x80 := Nat.lt_succ_of_le hone
    have hmany : decide (0x80 ≤ c.toNat) = false := decide_eq_false (Nat.not_le_of_lt hlt)
    have hbyte := isBlankByte_ofNat hlt (bounds_of_isBlank h hlt)
    rw [hmany, Bool.or_false]
    simp [hbyte]
  · next hmany =>
    have hc : 0x80 ≤ c.toNat := Nat.lt_of_not_le hmany
    split
    · exact first _ (by omega) (by omega) hc
    · split
      · exact first _ (by omega) (by omega) hc
      · exact first _ (by omega) (by omega) hc

private theorem hasContent_utf8Encode {cs : List Char} (h : ∀ c ∈ cs, isBlank c = true) :
    hasContent cs.utf8Encode = cs.any isOddBlank := by
  induction cs with
  | nil => rfl
  | cons c rest ih =>
    obtain ⟨hc, hrest⟩ := List.forall_mem_cons.mp h
    rw [List.utf8Encode_cons, hasContent_append, hasContent_encode hc, ih hrest, List.any_cons]

end Text

/-! ### Nodes that are white space -/

mutual

/-- The characters of a node that is text or a list of such nodes. -/
def Node.chars : Node → List Char
  | .text _ s => s.toList
  | .list _ nodes => charsOf nodes
  | .action .. | .branch .. | .template .. | .wrap .. | .block .. => []
termination_by structural n => n

/-- The characters of nodes that are text or lists of such nodes. -/
def charsOf : List Node → List Char
  | [] => []
  | n :: rest => n.chars ++ charsOf rest
termination_by structural ns => ns

end

private theorem hasContent_cons (n : Node) (rest : List Node) :
    hasContent (outputOf (n :: rest)) = (hasContent n.output || hasContent (outputOf rest)) := by
  rw [outputOf, hasContent_append]

namespace Node

/-- Nodes that are white space: text of nothing else, and lists of such nodes. -/
inductive Blank : List Node → Prop where
  | nil : Blank []
  | text {span : Span} {s : String} {rest : List Node} :
      Text.isBlankText s = true → Blank rest → Blank (.text span s :: rest)
  | list {span : Span} {nodes rest : List Node} :
      Blank nodes → Blank rest → Blank (.list span nodes :: rest)

variable {nodes : List Node}

mutual

private theorem blank_cons (n : Node) (h : n.isBlank = true) {rest : List Node} (hr : Blank rest) :
    Blank (n :: rest) := by
  cases n with
  | text span s => exact .text h hr
  | list span nodes => exact .list (blank_of_allBlank nodes h) hr
  | action | branch | template | wrap | block => cases h

/-- Nodes that are white space consist of blank texts in lists. -/
theorem blank_of_allBlank (nodes : List Node) (h : allBlank nodes = true) : Blank nodes := by
  cases nodes with
  | nil => exact .nil
  | cons n rest =>
    rw [allBlank, Bool.and_eq_true] at h
    exact blank_cons n h.1 (blank_of_allBlank rest h.2)

end

namespace Blank

/-- Blank nodes are static. -/
theorem allStatic (h : Blank nodes) : allStatic nodes = true := by
  induction h with
  | nil => rfl
  | text _ _ ih =>
    rw [TextTemplate.allStatic, isStatic, ih]
    rfl
  | list _ _ ih ihr =>
    rw [TextTemplate.allStatic, isStatic, ih, ihr]
    rfl

private theorem isBlank_of_mem (h : Blank nodes) : ∀ c ∈ charsOf nodes, Text.isBlank c = true := by
  induction h with
  | nil => exact List.forall_mem_nil _
  | text hs _ ih =>
    rw [charsOf, chars, List.forall_mem_append]
    exact ⟨List.all_eq_true.mp hs, ih⟩
  | list _ _ ih ihr =>
    rw [charsOf, chars, List.forall_mem_append]
    exact ⟨ih, ihr⟩

/-- White space writes its characters. -/
theorem outputOf_eq (h : Blank nodes) : outputOf nodes = (charsOf nodes).utf8Encode := by
  induction h with
  | nil => rfl
  | text _ _ ih =>
    rw [outputOf, output, charsOf, chars, List.utf8Encode_append, ih, String.utf8Encode_toList]
    rfl
  | list _ _ ih ihr =>
    rw [outputOf, output, charsOf, chars, List.utf8Encode_append, ih, ihr]

/-- Blank nodes have content just if they have an odd blank. -/
theorem hasContent_eq (h : Blank nodes) :
    hasContent (outputOf nodes) = (charsOf nodes).any Text.isOddBlank := by
  rw [h.outputOf_eq, Text.hasContent_utf8Encode h.isBlank_of_mem]

end Blank

end Node

/-! ### Nodes in a wrap -/

/-- A state at a place, with a wrap as its newest sink. -/
def State.inWrap (s : State) (w : WrapSink) (rest : List Sink)
    (place : Option (Span × Subject)) : State :=
  { s with sinks := .wrap w :: rest, place := place }

namespace Walk

variable {dot : Value} {s u v : State} {w : WrapSink} {rest : List Sink} {nodes : List Node}
  {place : Option (Span × Subject)} {task : Task} {n : Node}

private theorem nodes_ends (h : (each host dot nodes s).Ends host (.ok (), u)) :
    (Walk.nodes nodes dot s).Ends host (.ok (), u) :=
  perform_ends (bind_ends h (.done _))

private theorem of_nodes_ends_ok (h : (Walk.nodes nodes dot s).Ends host (.ok (), u)) :
    (each host dot nodes s).Ends host (.ok (), u) := by
  obtain ⟨_, v, ha, hd⟩ := of_bind_ends_ok h
  cases hd
  cases ha with
  | ask hr hd =>
    cases hd
    obtain ⟨_, v, he, hd⟩ := of_bind_ends_ok hr
    cases hd
    exact he

private theorem each_inWrap (n : Node) (nodes : List Node) :
    each host dot (n :: nodes) (s.inWrap w rest place) =
      ((node host dot n).mapError State.locate >>= fun _ ↦ each host dot nodes)
        (s.inWrap w rest (some (n.span, .node n))) := by
  rw [each, setPlace, modify_bind]
  rfl

/-- After a node that ends, nodes go on with those after it. -/
theorem each_cons_ends {r : Outcome Unit × State}
    (h : (node host dot n (s.inWrap w rest (some (n.span, .node n)))).Ends host (.ok (), u))
    (hr : (each host dot nodes u).Ends host r) :
    (each host dot (n :: nodes) (s.inWrap w rest place)).Ends host r := by
  rw [each_inWrap]
  exact bind_ends (mapError_ends h) hr

private theorem of_each_cons_ends_ok (h : (each host dot (n :: nodes) s).Ends host (.ok (), v)) :
    ∃ u, (node host dot n { s with place := some (n.span, .node n) }).Ends host (.ok (), u) ∧
      (each host dot nodes u).Ends host (.ok (), v) := by
  rw [each, setPlace, modify_bind] at h
  obtain ⟨_, u, hn, hr⟩ := of_bind_ends_ok h
  obtain ⟨⟨outcome, t⟩, hn, hd⟩ := Run.Ends.of_bind hn
  cases outcome with
  | ok _ =>
    cases hd
    exact ⟨u, hn, hr⟩
  | error _ | panic _ => cases hd

private theorem asks_each_head
    (h : (node host dot n (s.inWrap w rest (some (n.span, .node n)))).Asks host task v) :
    (each host dot (n :: nodes) (s.inWrap w rest place)).Asks host task v := by
  rw [each_inWrap]
  exact h.bind.bind

private theorem asks_each_list (span : Span) (inner : List Node) :
    (each host dot (.list span inner :: nodes) (s.inWrap w rest place)).Asks host (.walk inner dot)
      (s.inWrap w rest (some (span, .node (.list span inner)))) :=
  asks_each_head (n := .list span inner) (asks_perform_iff.mpr ⟨rfl, rfl⟩)

/-- Where the first node ends, nodes ask for what it asks for and then for what the others do. -/
theorem asks_each_cons_iff
    (h : (node host dot n (s.inWrap w rest (some (n.span, .node n)))).Ends host (.ok (), u)) :
    (each host dot (n :: nodes) (s.inWrap w rest place)).Asks host task v ↔
      (node host dot n (s.inWrap w rest (some (n.span, .node n)))).Asks host task v ∨
        (each host dot nodes u).Asks host task v := by
  constructor
  · intro ha
    rw [each_inWrap] at ha
    obtain hn | ⟨_, _, hu, ha⟩ := of_asks_bind ha
    · exact .inl (of_asks_mapError hn)
    · cases (mapError_ends h).unique hu
      exact .inr ha
  · rintro (hn | ha)
    · exact asks_each_head hn
    · rw [each_inWrap]
      exact asks_bind_ends (mapError_ends h) ha

/-! ### Blank bytes in a wrap -/

private theorem text_held (span : Span) (text : String) (ht : w.triggered = false)
    (hc : hasContent text.toUTF8 = false) :
    node host dot (.text span text) (s.inWrap w rest place) =
      .done (.ok (), s.inWrap (w.holding (w.collect text.toUTF8)) rest place) := by
  have hs : (s.inWrap w rest place).sinks = [] ++ .wrap w :: rest := rfl
  rw [node, writeText, write_eq]
  exact writeLevel_blank hs ht hc

/-- Blank bytes are held back by a wrap without content. -/
theorem each_held (hb : Node.Blank nodes) (hc : hasContent (outputOf nodes) = false)
    (ht : w.triggered = false) :
    ∃ pending place', (each host dot nodes (s.inWrap w rest place)).Ends host
      (.ok (), s.inWrap (w.holding pending) rest place') := by
  induction hb generalizing w place with
  | nil => exact ⟨w.pending, place, .done _⟩
  | @text span text more _ _ ih =>
    rw [hasContent_cons, Bool.or_eq_false_iff] at hc
    obtain ⟨pending, place', h⟩ := ih (w := w.holding (w.collect text.toUTF8)) hc.2 ht
    exact ⟨pending, place', each_cons_ends (.value (text_held span text ht hc.1)) h⟩
  | @list span inner more _ _ ih ihr =>
    rw [hasContent_cons, Bool.or_eq_false_iff] at hc
    obtain ⟨held, _, hn⟩ := ih hc.1 ht
    obtain ⟨pending, place', h⟩ := ihr (w := w.holding held) hc.2 ht
    exact ⟨pending, place', each_cons_ends (n := .list span inner) (nodes_ends hn) h⟩

/-- A walk of blank bytes by which a wrap, as it is up to what it holds back, gets no content. -/
def IsHeld (s : State) (w : WrapSink) (rest : List Sink) (dot : Value) (q : Request) : Prop :=
  ∃ nodes pending place, q = (.walk nodes dot, s.inWrap (w.holding pending) rest place) ∧
    Node.Blank nodes ∧ hasContent (outputOf nodes) = false

/-- Where blank bytes are held back, only more of them are walked. -/
theorem each_held_asks (hb : Node.Blank nodes) (hc : hasContent (outputOf nodes) = false)
    (ht : w.triggered = false)
    (ha : (each host dot nodes (s.inWrap w rest place)).Asks host task u) :
    IsHeld s w rest dot (task, u) := by
  induction hb generalizing w place with
  | nil => cases ha
  | @text span text more _ _ ih =>
    rw [hasContent_cons, Bool.or_eq_false_iff] at hc
    obtain hn | ha := (asks_each_cons_iff (.value (text_held span text ht hc.1))).mp ha
    · rw [text_held span text ht hc.1] at hn
      cases hn
    · exact ih (w := w.holding (w.collect text.toUTF8)) hc.2 ht ha
  | @list span inner more hinner _ ih ihr =>
    rw [hasContent_cons, Bool.or_eq_false_iff] at hc
    obtain ⟨held, _, hn⟩ := each_held hinner hc.1 ht
    obtain hn | ha := (asks_each_cons_iff (n := .list span inner) (nodes_ends hn)).mp ha
    · obtain ⟨rfl, rfl⟩ := asks_perform_iff.mp hn
      exact ⟨inner, w.pending, _, rfl, hinner, hc.1⟩
    · exact ihr (w := w.holding held) hc.2 ht ha

private theorem IsHeld.asked {q : Request} (h : IsHeld s w rest dot q) (ht : w.triggered = false)
    (ha : (start host q.1 q.2).Asks host task u) : IsHeld s w rest dot (task, u) := by
  obtain ⟨nodes, pending, place, rfl, hb, hc⟩ := h
  obtain ha | ⟨_, _, _, hf⟩ := of_asks_bind ha
  · exact each_held_asks (w := w.holding pending) hb hc ht ha
  · cases hf

/-- A walk that a wrap holds back has this wrap as its innermost sink. -/
theorem IsHeld.length_sinks {q : Request} (h : IsHeld s w rest dot q) :
    q.2.sinks.length = rest.length + 1 := by
  obtain ⟨_, _, _, rfl, -⟩ := h
  rfl

/-- All that a walk of blank bytes opens are such walks. -/
theorem IsHeld.above {first request q : Request} {above outside : List Request}
    (h : IsHeld s w rest dot q) (ht : w.triggered = false)
    (hm : Moment host first (request :: above ++ q :: outside)) : IsHeld s w rest dot request := by
  induction above generalizing request with
  | nil => exact h.asked ht hm.asked
  | cons parent above ih => exact (ih hm.outer).asked ht hm.asked

/-! ### Content in a wrap -/

private theorem text_content (span : Span) {text : String} (ht : w.triggered = false)
    (hc : hasContent text.toUTF8 = true) :
    node host dot (.text span text) (s.inWrap w rest place) =
      (leading rest.length w >>= fun _ ↦ writeLevel rest.length (w.collect text.toUTF8))
        (s.inWrap w.opened rest place) := by
  have hs : (s.inWrap w rest place).sinks = [] ++ .wrap w :: rest := rfl
  rw [node, writeText, write_eq]
  exact writeLevel_content hs ht hc

/-- Content makes a wrap walk the nodes before it, with the sinks around the wrap as the output. -/
theorem text_asks (span : Span) {text : String} {before : List Node} (hw : w.before = some before)
    (ht : w.triggered = false) (hc : hasContent text.toUTF8 = true) :
    (node host dot (.text span text) (s.inWrap w rest place)).Asks host (.walk before w.dot)
      { s with sinks := rest, place := place } := by
  have htruncated : (s.inWrap w.opened rest place).truncateSinks rest.length =
      { s with sinks := rest, place := place } := by
    have holdest : Stack.oldest (Sink.wrap w.opened :: rest) rest.length = rest :=
      Stack.oldest_append [Sink.wrap w.opened] rest
    rw [State.truncateSinks, State.inWrap, holdest]
  have hbelow : (below rest.length before w.dot (s.inWrap w.opened rest place)).Asks host
      (.walk before w.dot) { s with sinks := rest, place := place } := by
    rw [below, read_bind, modify_bind, htruncated]
    exact .first rfl
  rw [text_content span ht hc, leading, hw]
  exact asks_bind hbelow

/-- Where white space in a wrap has content, the nodes before the content are walked. -/
theorem exists_moment_before {before : List Node} {start q : Request} {stack : List Request}
    (hb : Node.Blank nodes) (hc : hasContent (outputOf nodes) = true)
    (hw : w.before = some before) (ht : w.triggered = false)
    (hm : Moment host start (q :: stack))
    (hq : ∀ task u, (each host dot nodes (s.inWrap w rest place)).Asks host task u →
      (Walk.start host q.1 q.2).Asks host task u) :
    ∃ above u, Moment host start ((.walk before w.dot, u) :: above ++ q :: stack) ∧
      u.sinks = rest ∧ ∀ p ∈ above, p.1.isRender = false ∧ p.2.sinks.length = rest.length + 1 := by
  induction hb generalizing w place q stack with
  | nil => cases hc
  | @text span text more _ _ ih =>
    cases htext : hasContent text.toUTF8 with
    | true =>
      refine ⟨[], _, .ask hm (hq _ _ (asks_each_head (text_asks span hw ht htext))), rfl, ?_⟩
      exact List.forall_mem_nil _
    | false =>
      have hmore : hasContent (outputOf more) = true := by
        rwa [hasContent_cons, show hasContent (Node.output (.text span text)) = false from htext,
          Bool.false_or] at hc
      have hheld := fun task u ha ↦ hq task u
        ((asks_each_cons_iff (.value (text_held span text ht htext))).mpr (.inr ha))
      exact ih (w := w.holding (w.collect text.toUTF8)) hmore hw ht hm hheld
  | @list span inner more hinner _ ih ihr =>
    cases hlist : hasContent (outputOf inner) with
    | true =>
      have hm' := hm.ask (hq _ _ (asks_each_list span inner))
      obtain ⟨above, u, hbefore, hu, habove⟩ := ih hlist hw ht hm' fun _ _ ha ↦ asks_bind ha
      refine ⟨above ++ [_], u, by simpa using hbefore, hu, ?_⟩
      exact List.forall_mem_append.mpr ⟨habove, List.forall_mem_singleton.mpr ⟨rfl, rfl⟩⟩
    | false =>
      have hmore : hasContent (outputOf more) = true := by
        rwa [hasContent_cons, show hasContent (Node.output (.list span inner)) = false from hlist,
          Bool.false_or] at hc
      obtain ⟨held, _, hn⟩ := each_held hinner hlist ht
      have hheld := fun task u ha ↦ hq task u
        ((asks_each_cons_iff (n := .list span inner) (nodes_ends hn)).mpr (.inr ha))
      exact ihr (w := w.holding held) hmore hw ht hm hheld

/-! ### Wraps with content -/

private theorem text_through {span : Span} {text : String} {level : Nat} (ht : w.triggered = true)
    (h : (node host dot (.text span text) s).Ends host (.ok (), v)) (hs : Above [.wrap w] level s) :
    Above [.wrap w] level v := by
  obtain ⟨rest, rfl, hsinks⟩ := hs
  have hs : s.sinks = [] ++ .wrap w :: rest := hsinks
  have hlength : s.sinks.length = rest.length + 1 := congrArg List.length hsinks
  rw [node, writeText, write_eq, hlength, writeLevel_triggered hs ht] at h
  exact writeLevel_keeps ⟨rest, rfl, hsinks⟩ h

/-- White space that is walked leaves a wrap with content as it is. -/
theorem each_through {level : Nat} (hb : Node.Blank nodes) (ht : w.triggered = true)
    (h : (each host dot nodes s).Ends host (.ok (), v)) (hs : Above [.wrap w] level s) :
    Above [.wrap w] level v := by
  induction hb generalizing s v with
  | nil =>
    cases h
    exact hs
  | text _ _ ih =>
    obtain ⟨u, hn, hr⟩ := of_each_cons_ends_ok h
    exact ih hr (text_through ht hn hs)
  | list _ _ ih ihr =>
    obtain ⟨u, hn, hr⟩ := of_each_cons_ends_ok h
    exact ihr hr (ih (of_nodes_ends_ok hn) hs)

/-- Content opens a wrap. -/
theorem text_opens {span : Span} {text : String} (ht : w.triggered = false)
    (hc : hasContent text.toUTF8 = true)
    (h : (node host dot (.text span text) (s.inWrap w rest place)).Ends host (.ok (), v)) :
    Above [.wrap w.opened] rest.length v := by
  have hopened : (s.inWrap w.opened rest place).sinks = [] ++ .wrap w.opened :: rest := rfl
  rw [text_content span ht hc] at h
  obtain ⟨_, u, hlead, hwrite⟩ := of_bind_ends_ok h
  exact writeLevel_keeps (leading_keeps hopened hlead) hwrite

/-- White space with content opens a wrap. -/
theorem each_opens (hb : Node.Blank nodes) (hc : hasContent (outputOf nodes) = true)
    (ht : w.triggered = false)
    (h : (each host dot nodes (s.inWrap w rest place)).Ends host (.ok (), v)) :
    Above [.wrap w.opened] rest.length v := by
  -- what comes before the content is held back, and what comes after it leaves the wrap open
  induction hb generalizing w place v with
  | nil => cases hc
  | @text span text more _ hmore ih =>
    obtain ⟨u, hn, hr⟩ := of_each_cons_ends_ok h
    cases htext : hasContent text.toUTF8 with
    | true => exact each_through hmore rfl hr (text_opens ht htext hn)
    | false =>
      rw [hasContent_cons, Node.output, htext, Bool.false_or] at hc
      cases (Run.Ends.value (text_held span text ht htext)).unique hn
      exact ih (w := w.holding (w.collect text.toUTF8)) hc ht hr
  | @list span inner more hinner hmore ih ihr =>
    obtain ⟨u, hn, hr⟩ := of_each_cons_ends_ok h
    have hn := of_nodes_ends_ok hn
    cases hlist : hasContent (outputOf inner) with
    | true => exact each_through hmore rfl hr (ih hlist ht hn)
    | false =>
      rw [hasContent_cons, Node.output, hlist, Bool.false_or] at hc
      obtain ⟨held, _, hheld⟩ := each_held hinner hlist ht
      cases hheld.unique hn
      exact ihr (w := w.holding held) hc ht hr

end Walk

end TextTemplate
