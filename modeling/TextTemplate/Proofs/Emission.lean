import TextTemplate.Proofs.Level

/-!
# What static nodes write

Nodes that are made of text, lists and wraps write the same bytes wherever they stand. What they
write is told here by recursion on the nodes, apart from the sinks through which a render writes
it; and what sinks let through of some bytes is told by recursion on the sinks, apart from the
walks of the nodes before the content of a wrap. Bytes may come in pieces (`emit_append`).
-/

set_option autoImplicit false

namespace TextTemplate

/-! ### White space and content -/

/-- Whether there is content among bytes: a byte that is no white space. -/
def hasContent (bytes : ByteArray) : Bool := bytes.data.toList.any fun b ↦ !Text.isBlankByte b

/-- Bytes without the white space that they begin with. -/
def dropBlank (bytes : ByteArray) : ByteArray :=
  ⟨(bytes.data.toList.dropWhile Text.isBlankByte).toArray⟩

/-- Bytes have content if one of their parts has. -/
theorem hasContent_append (a b : ByteArray) :
    hasContent (a ++ b) = (hasContent a || hasContent b) := by
  simp only [hasContent, ByteArray.data_append, Array.toList_append, List.any_append]

private theorem isEmpty_dropWhile (p : UInt8 → Bool) (bytes : List UInt8) :
    (bytes.dropWhile p).isEmpty = !bytes.any fun b ↦ !p b := by
  induction bytes with
  | nil => rfl
  | cons b rest ih => cases hb : p b <;> simp [hb, ih]

/-- Blanks are dropped from the first part, and from the second one if the first has no content. -/
theorem dropBlank_append (a b : ByteArray) :
    dropBlank (a ++ b) = if hasContent a then dropBlank a ++ b else dropBlank b := by
  apply ByteArray.ext
  rw [dropBlank, ByteArray.data_append, Array.toList_append, List.dropWhile_append,
    isEmpty_dropWhile]
  cases h : hasContent a with
  | true => simp [show (a.data.toList.any _) = true from h, dropBlank, ByteArray.data_append]
  | false => simp [show (a.data.toList.any _) = false from h, dropBlank]

private theorem length_takeWhile_eq_iff (p : UInt8 → Bool) (bytes : List UInt8) :
    (bytes.takeWhile p).length = bytes.length ↔ (bytes.any fun b ↦ !p b) = false := by
  induction bytes with
  | nil => simp
  | cons b rest ih => cases hb : p b <;> simp [hb, ih]

private theorem leadingBlank_eq_size_iff {bytes : ByteArray} :
    leadingBlank bytes = bytes.size ↔ hasContent bytes = false :=
  length_takeWhile_eq_iff ..

/-- The leading blanks are among the bytes. -/
theorem leadingBlank_le_size (bytes : ByteArray) : leadingBlank bytes ≤ bytes.size :=
  (List.takeWhile_prefix Text.isBlankByte).length_le

/-- What comes after the leading blanks is what is left when they are dropped. -/
theorem extract_leadingBlank (bytes : ByteArray) :
    bytes.extract (leadingBlank bytes) bytes.size = dropBlank bytes := by
  have hdrop : bytes.data.toList.drop (leadingBlank bytes) =
      bytes.data.toList.dropWhile Text.isBlankByte := by
    calc bytes.data.toList.drop (leadingBlank bytes)
        = (bytes.data.toList.takeWhile Text.isBlankByte ++
            bytes.data.toList.dropWhile Text.isBlankByte).drop (leadingBlank bytes) := by
          rw [List.takeWhile_append_dropWhile]
      _ = bytes.data.toList.dropWhile Text.isBlankByte := List.drop_left' rfl
  apply ByteArray.ext
  rw [ByteArray.data_extract, ← Array.toList_inj, Array.toList_extract, List.extract_eq_take_drop,
    hdrop]
  apply List.take_of_length_le
  rw [← hdrop, List.length_drop, Array.length_toList]
  exact Nat.le_refl _

/-- Without content nothing is left. -/
theorem dropBlank_of_blank {bytes : ByteArray} (h : hasContent bytes = false) :
    dropBlank bytes = .empty := by
  rw [← extract_leadingBlank, leadingBlank_eq_size_iff.mpr h, ByteArray.extract_same]

/-- What a wrap has before its content, followed by bytes. -/
def WrapSink.collect (w : WrapSink) (bytes : ByteArray) : ByteArray :=
  w.pending ++ if w.strip then dropBlank bytes else bytes

/-- A wrap with white space that it holds back. -/
def WrapSink.holding (w : WrapSink) (pending : ByteArray) : WrapSink :=
  { w with pending := pending }

/-- A wrap with content. -/
def WrapSink.opened (w : WrapSink) : WrapSink := { w with triggered := true, pending := .empty }

namespace WrapSink

variable {w : WrapSink} {a b : ByteArray}

/-- What a wrap receives, by the content among it. -/
theorem receive_eq (w : WrapSink) (bytes : ByteArray) :
    w.receive bytes =
      if hasContent bytes then (w.opened, some (w.collect bytes))
      else (w.holding (w.collect bytes), none) := by
  have hall : bytes.extract 0 (leadingBlank bytes) ++ dropBlank bytes = bytes := by
    rw [← extract_leadingBlank, ByteArray.extract_append_extract, Nat.zero_min,
      Nat.max_eq_right (leadingBlank_le_size bytes), ByteArray.extract_zero_size]
  rw [receive, collect]
  cases hc : hasContent bytes with
  | false =>
    have hn := leadingBlank_eq_size_iff.mpr hc
    rw [dropBlank_of_blank hc, if_pos hn, hn, ByteArray.extract_zero_size]
    cases hs : w.strip with
    | true | false => simp [holding, hs]
  | true =>
    have hn : leadingBlank bytes ≠ bytes.size := fun h ↦ by
      rw [leadingBlank_eq_size_iff.mp h] at hc
      cases hc
    rw [if_neg hn, extract_leadingBlank]
    cases hs : w.strip with
    | true | false => simp [ByteArray.append_assoc, hall, opened, hs]

/-- After content a wrap collects everything. -/
theorem collect_append_content (w : WrapSink) (h : hasContent a = true) :
    w.collect (a ++ b) = w.collect a ++ b := by
  rw [collect, collect, dropBlank_append, h]
  cases w.strip with
  | true | false => simp [ByteArray.append_assoc]

/-- No bytes leave a wrap as it is. -/
theorem holding_collect_empty (w : WrapSink) : w.holding (w.collect .empty) = w := by
  rw [collect, dropBlank_of_blank rfl, ite_self, ByteArray.append_empty]
  rfl

/-- White space comes before what follows it. -/
theorem collect_append_blank (w : WrapSink) (h : hasContent a = false) :
    w.collect (a ++ b) = (w.holding (w.collect a)).collect b := by
  rw [collect, collect, holding, collect, dropBlank_append, h, dropBlank_of_blank h]
  cases w.strip with
  | true | false => simp [ByteArray.append_assoc]

end WrapSink

/-! ### Writers -/

/-- Nothing can be written to every writer. -/
theorem Writer.write_empty (w : Writer) : w.write .empty = (w, none) := by
  obtain ⟨written, capacity⟩ := w
  cases capacity with
  | none | some c => simp [write]

/-- To write bytes one after the other is to write them all, as far as they fit. -/
theorem Writer.write_append (w : Writer) (a b : ByteArray) :
    w.write (a ++ b) =
      match w.write a with
      | (w, none) => w.write b
      | (w, some fault) => (w, some fault) := by
  obtain ⟨written, capacity⟩ := w
  cases capacity with
  | none => simp only [write, ByteArray.append_assoc]
  | some c =>
    simp only [write, ByteArray.size_append, ByteArray.extract_append, Nat.zero_sub]
    have hroom : c.size - written.size - a.size = c.size - (written.size + a.size) :=
      Nat.sub_sub ..
    by_cases ha : a.size ≤ c.size - written.size
    · have hfits : a.size + b.size ≤ c.size - written.size ↔
          b.size ≤ c.size - (written.size + a.size) := by omega
      have hself : a.extract 0 (c.size - written.size) = a := by
        rw [← ByteArray.extract_zero_size (b := a), ByteArray.extract_extract]
        congr 1
        omega
      simp only [ha, if_true, hfits, ByteArray.size_append, ByteArray.append_assoc, hself, hroom]
    · have hab : ¬ a.size + b.size ≤ c.size - written.size := by omega
      have hnone : b.extract 0 (c.size - written.size - a.size) = .empty := by
        rw [ByteArray.extract_eq_empty_iff]
        omega
      simp only [ha, hab, if_false, hnone, ByteArray.append_empty]

/-! ### Static nodes -/

mutual

/-- Whether a node is static: text, or a list or a wrap of static nodes. -/
def Node.isStatic : Node → Bool
  | .text .. => true
  | .list _ nodes => allStatic nodes
  | .wrap _ _ body before after otherwise =>
    allStatic body && allStatic? before && allStatic? after && allStatic? otherwise
  | .action .. | .branch .. | .template .. | .block .. => false
termination_by structural n => n

/-- Whether all nodes are static. -/
def allStatic : List Node → Bool
  | [] => true
  | n :: rest => n.isStatic && allStatic rest
termination_by structural ns => ns

/-- Whether all nodes are static if there are any. -/
def allStatic? : Option (List Node) → Bool
  | none => true
  | some nodes => allStatic nodes
termination_by structural ns => ns

end

/-- What a wrap writes, by what its lists write. -/
def wrapped (strip : Bool) (body before after otherwise : ByteArray) : ByteArray :=
  if hasContent body then before ++ (if strip then dropBlank body else body) ++ after
  else otherwise

mutual

/-- What a static node writes. -/
def Node.output : Node → ByteArray
  | .text _ s => s.toUTF8
  | .list _ nodes => outputOf nodes
  | .wrap _ pipe body before after otherwise =>
    wrapped (Node.strips pipe) (outputOf body) (outputOf? before) (outputOf? after)
      (outputOf? otherwise)
  | .action .. | .branch .. | .template .. | .block .. => .empty
termination_by structural n => n

/-- What static nodes write. -/
def outputOf : List Node → ByteArray
  | [] => .empty
  | n :: rest => n.output ++ outputOf rest
termination_by structural ns => ns

/-- What static nodes write if there are any. -/
def outputOf? : Option (List Node) → ByteArray
  | none => .empty
  | some nodes => outputOf nodes
termination_by structural ns => ns

end

private theorem outputOf_append (nodes more : List Node) :
    outputOf (nodes ++ more) = outputOf nodes ++ outputOf more := by
  induction nodes with
  | nil => rw [outputOf, ByteArray.empty_append, List.nil_append]
  | cons n rest ih => rw [List.cons_append, outputOf, outputOf, ih, ByteArray.append_assoc]

private theorem allStatic_append (nodes more : List Node) :
    allStatic (nodes ++ more) = (allStatic nodes && allStatic more) := by
  induction nodes with
  | nil => rw [allStatic, List.nil_append, Bool.true_and]
  | cons n rest ih => rw [List.cons_append, allStatic, allStatic, ih, Bool.and_assoc]

/-- No list writes what an empty one does. -/
theorem outputOf?_eq (nodes : Option (List Node)) : outputOf? nodes = outputOf (nodes.getD []) := by
  cases nodes with
  | none | some nodes => rfl

private theorem allStatic?_eq (nodes : Option (List Node)) :
    allStatic? nodes = allStatic (nodes.getD []) := by
  cases nodes with
  | none | some nodes => rfl

/-- Nodes that differ in how their text is cut into nodes, and how nodes are grouped into lists. -/
inductive Recut : List Node → List Node → Prop where
  | refl (nodes : List Node) : Recut nodes nodes
  | symm {a b : List Node} : Recut a b → Recut b a
  | trans {a b c : List Node} : Recut a b → Recut b c → Recut a c
  | append {a b c d : List Node} : Recut a b → Recut c d → Recut (a ++ c) (b ++ d)
  | text (span first second : Span) (s t : String) :
      Recut [.text span (s ++ t)] [.text first s, .text second t]
  | list (span : Span) (nodes : List Node) : Recut [.list span nodes] nodes
  | wrap (span : Span) (pipe : Option Pipe) {body body' : List Node}
      {before before' after after' otherwise otherwise' : Option (List Node)} :
      Recut body body' → Recut (before.getD []) (before'.getD []) →
      Recut (after.getD []) (after'.getD []) → Recut (otherwise.getD []) (otherwise'.getD []) →
        Recut [.wrap span pipe body before after otherwise]
          [.wrap span pipe body' before' after' otherwise']

namespace Recut

variable {a b : List Node}

/-- Nodes are static however their text is cut. -/
theorem allStatic_eq (h : Recut a b) : allStatic a = allStatic b := by
  induction h with
  | refl => rfl
  | symm _ ih => exact ih.symm
  | trans _ _ ih ih' => exact ih.trans ih'
  | append _ _ ih ih' => rw [allStatic_append, allStatic_append, ih, ih']
  | text => rfl
  | list => rw [allStatic, Node.isStatic, allStatic, Bool.and_true]
  | wrap span pipe _ _ _ _ hbody hbefore hafter hotherwise =>
    simp only [allStatic, Node.isStatic, allStatic?_eq, hbody, hbefore, hafter, hotherwise]

/-- What is written does not depend on how text is cut into nodes. -/
theorem output_eq (h : Recut a b) : outputOf a = outputOf b := by
  induction h with
  | refl => rfl
  | symm _ ih => exact ih.symm
  | trans _ _ ih ih' => exact ih.trans ih'
  | append _ _ ih ih' => rw [outputOf_append, outputOf_append, ih, ih']
  | text span first second s t =>
    simp only [outputOf, Node.output, String.toUTF8_eq_toByteArray, String.toByteArray_append,
      ByteArray.append_empty]
  | list => rw [outputOf, Node.output, outputOf, ByteArray.append_empty]
  | wrap span pipe _ _ _ _ hbody hbefore hafter hotherwise =>
    simp only [outputOf, Node.output, outputOf?_eq, hbody, hbefore, hafter, hotherwise]

end Recut

/-! ### What sinks let through -/

/-- The sinks after some bytes, and what reaches the writer. A wrap writes the nodes before its
content when the content arrives. -/
def emit (bytes : ByteArray) : List Sink → List Sink × ByteArray
  | [] => ([], bytes)
  | .buffer held :: rest => (.buffer (held ++ bytes) :: rest, .empty)
  | .wrap w :: rest =>
    if w.triggered then
      let below := emit bytes rest
      (.wrap w :: below.1, below.2)
    else
      match w.receive bytes with
      | (w, none) => (.wrap w :: rest, .empty)
      | (w, some content) =>
        let below := emit (outputOf? w.before ++ content) rest
        (.wrap w :: below.1, below.2)

variable {w : WrapSink} {rest : List Sink} {bytes : ByteArray}

/-- Output passes through a wrap that has been triggered. -/
theorem emit_wrap_triggered (h : w.triggered = true) :
    emit bytes (.wrap w :: rest) = (.wrap w :: (emit bytes rest).1, (emit bytes rest).2) := by
  rw [emit, if_pos h]

/-- A wrap that has not been triggered holds blank output back. -/
theorem emit_wrap_blank (h : w.triggered = false) (hb : hasContent bytes = false) :
    emit bytes (.wrap w :: rest) = (.wrap (w.holding (w.collect bytes)) :: rest, .empty) := by
  simp [emit, h, w.receive_eq, hb]

/-- Output with content triggers a wrap and comes out behind its beginning. -/
theorem emit_wrap_content (h : w.triggered = false) (hb : hasContent bytes = true) :
    emit bytes (.wrap w :: rest) =
      (.wrap w.opened :: (emit (outputOf? w.before ++ w.collect bytes) rest).1,
        (emit (outputOf? w.before ++ w.collect bytes) rest).2) := by
  simp [emit, h, w.receive_eq, hb, WrapSink.opened]

/-- No bytes leave the sinks as they are. -/
theorem emit_empty (sinks : List Sink) : emit .empty sinks = (sinks, .empty) := by
  induction sinks with
  | nil => rfl
  | cons sink rest ih =>
    cases sink with
    | buffer held => rw [emit, ByteArray.append_empty]
    | wrap w =>
      cases h : w.triggered with
      | true => rw [emit_wrap_triggered h, ih]
      | false =>
        rw [emit_wrap_blank h rfl, w.holding_collect_empty]

/-- Sinks keep their kinds. -/
theorem fresh_emit (bytes : ByteArray) (sinks : List Sink) :
    (emit bytes sinks).1.map Sink.fresh = sinks.map Sink.fresh := by
  induction sinks generalizing bytes with
  | nil => rfl
  | cons sink rest ih =>
    cases sink with
    | buffer held => rfl
    | wrap w =>
      cases h : w.triggered with
      | true => rw [emit_wrap_triggered h, List.map_cons, List.map_cons, ih]
      | false =>
        cases hb : hasContent bytes with
        | false =>
          rw [emit_wrap_blank h hb]
          rfl
        | true =>
          rw [emit_wrap_content h hb, List.map_cons, List.map_cons, ih]
          rfl

/-- Output leaves as many sinks as there were. -/
theorem length_emit (bytes : ByteArray) (sinks : List Sink) :
    (emit bytes sinks).1.length = sinks.length := by
  simpa using congrArg List.length (fresh_emit bytes sinks)

/-- Whether the nodes before the content of a wrap are static. -/
def Sink.isStatic : Sink → Bool
  | .buffer _ => true
  | .wrap w => allStatic? w.before

private theorem Sink.isStatic_fresh (sink : Sink) : sink.fresh.isStatic = sink.isStatic := by
  cases sink with
  | buffer held => rfl
  | wrap w => rfl

/-- Output leaves the sinks as static as they were. -/
theorem isStatic_emit (bytes : ByteArray) (sinks : List Sink) :
    (emit bytes sinks).1.all Sink.isStatic = sinks.all Sink.isStatic := by
  have hfresh (sinks : List Sink) :
      (sinks.map Sink.fresh).all Sink.isStatic = sinks.all Sink.isStatic := by
    rw [List.all_map]
    exact congrArg sinks.all (funext Sink.isStatic_fresh)
  rw [← hfresh, fresh_emit, hfresh]

/-- What sinks make of bytes does not depend on the pieces in which they come. -/
theorem emit_append (a b : ByteArray) (sinks : List Sink) :
    emit (a ++ b) sinks =
      ((emit b (emit a sinks).1).1, (emit a sinks).2 ++ (emit b (emit a sinks).1).2) := by
  induction sinks generalizing a b with
  | nil => rfl
  | cons sink rest ih =>
    cases sink with
    | buffer held => simp only [emit, ByteArray.append_assoc, ByteArray.append_empty]
    | wrap w =>
      cases h : w.triggered with
      | true => simp only [emit_wrap_triggered h, ih]
      | false =>
        cases ha : hasContent a with
        | true =>
          have hab : hasContent (a ++ b) = true := by rw [hasContent_append, ha, Bool.true_or]
          have hopen : w.opened.triggered = true := rfl
          simp only [emit_wrap_content h hab, emit_wrap_content h ha, emit_wrap_triggered hopen,
            w.collect_append_content ha, ← ByteArray.append_assoc, ih]
        | false =>
          have hab : hasContent (a ++ b) = hasContent b := by
            rw [hasContent_append, ha, Bool.false_or]
          have hheld : (w.holding (w.collect a)).triggered = false := h
          cases hb : hasContent b with
          | true =>
            simp only [emit_wrap_content h (hab.trans hb), emit_wrap_blank h ha,
              emit_wrap_content hheld hb, w.collect_append_blank ha, ByteArray.empty_append]
            rfl
          | false =>
            simp only [emit_wrap_blank h (hab.trans hb), emit_wrap_blank h ha,
              emit_wrap_blank hheld hb, w.collect_append_blank ha, ByteArray.empty_append]
            rfl

end TextTemplate
