import TextTemplate.Proofs.Growth
import TextTemplate.Proofs.Lookup

/-!
# Counts of callback bodies

A callback block counts how often its body has been run. An invocation that completes sets the count
to one more than it was when the invocation began, so what has completed within it is no longer
counted (`Run.Tallies.calls?`, `Callback.Tallies.calls?`). The variables in which a body finds the
count and its arguments are those of the block, and so the same for all invocations of a handle.
-/

set_option autoImplicit false

namespace TextTemplate

variable {α : Type} {host : Host} {handle : Nat}

/-! ### Counting completed invocations -/

/-- How many invocations of a handle have completed: those that no other completed one encloses, and
those that one does. -/
structure Tally where
  outer : Nat
  inner : Nat

namespace Tally

instance : Zero Tally := ⟨⟨0, 0⟩⟩

instance : Add Tally := ⟨fun m n ↦ ⟨m.outer + n.outer, m.inner + n.inner⟩⟩

private theorem outer_add (m n : Tally) : (m + n).outer = m.outer + n.outer := rfl

/-- How many invocations have completed in all. -/
def total (t : Tally) : Nat := t.outer + t.inner

/-- What a task counts that has ended, by what has been counted in its course. Other renders have
blocks of their own. -/
def enclose (handle : Nat) : Task → Outcome Value → Tally → Tally
  | .render _ _, _, _ => 0
  | .invoke n _ _, .ok _, t => if n = handle then ⟨1, t.total⟩ else t
  | _, _, t => t

end Tally

/-- The invocations of a handle that complete in a run that ends. -/
inductive Run.Tallies (host : Host) (handle : Nat) : {α : Type} → Run α → α → Tally → Prop where
  | done {α : Type} (a : α) : Tallies host handle (.done a) a 0
  | ask {α : Type} {task : Task} {s : State} {next : Reply → Run α} {r : Reply} {a : α}
      {m n : Tally} :
      Tallies host handle (Walk.start host task s) r m → Tallies host handle (next r) a n →
        Tallies host handle (.ask task s next) a (m.enclose handle task r.1 + n)

/-- The invocations of a handle that complete in a run before it asks for a task. -/
inductive Run.TalliesUntil (host : Host) (handle : Nat) :
    {α : Type} → Run α → Request → Tally → Prop where
  | now {α : Type} {task : Task} {s : State} {next : Reply → Run α} :
      TalliesUntil host handle (.ask task s next) (task, s) 0
  | later {α : Type} {task : Task} {s : State} {next : Reply → Run α} {r : Reply} {q : Request}
      {m n : Tally} :
      Run.Tallies host handle (Walk.start host task s) r m → TalliesUntil host handle (next r) q n →
        TalliesUntil host handle (.ask task s next) q (m.enclose handle task r.1 + n)

/-- The invocations of the handle of a callback that have completed at a moment since the callback
was begun. -/
inductive Callback.Tallies (host : Host) (c : Callback) : List Request → Tally → Prop where
  | opened : Tallies host c c.moment 0
  | ask {q parent : Request} {stack : List Request} {m n : Tally} :
      Tallies host c (parent :: stack) m → q.1.isRender = false →
        (Walk.start host parent.1 parent.2).TalliesUntil host c.handle q n →
          Tallies host c (q :: parent :: stack) (m + n)

namespace Run

private theorem Tallies.ends {x : Run α} {a : α} {n : Tally} (h : x.Tallies host handle a n) :
    x.Ends host a := by
  induction h with
  | done a => exact .done a
  | ask _ _ ihr iha => exact .ask ihr iha

private theorem Ends.exists_tally {x : Run α} {a : α} (h : x.Ends host a) (handle : Nat) :
    ∃ n, x.Tallies host handle a n := by
  induction h with
  | done a => exact ⟨0, .done a⟩
  | ask _ _ ihr iha =>
    obtain ⟨m, hm⟩ := ihr
    obtain ⟨n, hn⟩ := iha
    exact ⟨_, .ask hm hn⟩

private theorem TalliesUntil.asks {x : Run α} {q : Request} {n : Tally}
    (h : x.TalliesUntil host handle q n) : x.Asks host q.1 q.2 := by
  induction h with
  | now => exact .now
  | later hr _ ih => exact .later hr.ends ih

private theorem Asks.exists_tally {x : Run α} {task : Task} {s : State} (h : x.Asks host task s)
    (handle : Nat) : ∃ n, x.TalliesUntil host handle (task, s) n := by
  induction h with
  | now => exact ⟨0, .now⟩
  | later hr _ ih =>
    obtain ⟨m, hm⟩ := hr.exists_tally handle
    obtain ⟨n, hn⟩ := ih
    exact ⟨_, .later hm hn⟩

section

variable {x : Run α} {task : Task} {s : State} {next : Reply → Run α} {r : Reply} {a : α}
  {q : Request} {m n : Tally}

private theorem Tallies.value (h : x = .done a) : x.Tallies host handle a 0 := h ▸ .done a

private theorem Tallies.after {t : Tally} (h : x = .ask task s next)
    (hr : (Walk.start host task s).Tallies host handle r m)
    (ha : (next r).Tallies host handle a n) (ht : m.enclose handle task r.1 + n = t) :
    x.Tallies host handle a t := h ▸ ht ▸ .ask hr ha

private theorem TalliesUntil.first (h : x = .ask task s next) :
    x.TalliesUntil host handle (task, s) 0 := h ▸ .now

private theorem TalliesUntil.after {t : Tally} (h : x = .ask task s next)
    (hr : (Walk.start host task s).Tallies host handle r m)
    (ha : (next r).TalliesUntil host handle q n) (ht : m.enclose handle task r.1 + n = t) :
    x.TalliesUntil host handle q t := h ▸ ht ▸ .later hr ha

end

end Run

/-- At every moment in the course of a callback there is a number of invocations that have
completed. -/
theorem Moment.exists_tally {start : Request} {c : Callback} {above : List Request}
    (h : Moment host start (above ++ c.moment)) (hr : ∀ q ∈ above, q.1.isRender = false) :
    ∃ n, c.Tallies host (above ++ c.moment) n := by
  induction above with
  | nil => exact ⟨0, .opened⟩
  | cons q above ih =>
    rw [List.forall_mem_cons] at hr
    obtain ⟨parent, rest, hl⟩ : ∃ parent rest, above ++ c.moment = parent :: rest :=
      List.exists_cons_of_ne_nil (by simp [Callback.moment])
    rw [List.cons_append, hl] at h ⊢
    rw [hl] at ih
    obtain ⟨m, hm⟩ := ih h.outer hr.2
    obtain ⟨n, hn⟩ := h.asked.exists_tally c.handle
    exact ⟨m + n, .ask hm hr.1 hn⟩

/-! ### What blocks count -/

private theorem Stack.get?_modify_ne {stack : List α} {m n : Nat} (f : α → α) (h : m ≠ n) :
    Stack.get? (Stack.modify stack m f) n = Stack.get? stack n := by
  rw [get?, get?, modify, List.reverse_reverse, List.getElem?_modify_ne _ _ h]

/-- What is below the newest entry keeps its number. -/
theorem Stack.get?_tail {stack : List α} {n : Nat} (h : n < stack.tail.length) :
    Stack.get? stack.tail n = Stack.get? stack n := by
  cases stack with
  | nil => cases h
  | cons a rest => exact (Stack.get?_cons_lt h).symm

/-- The count of the block of a number. -/
def State.calls? (s : State) (handle : Nat) : Option Nat :=
  (Stack.get? s.blocks handle).map Block.calls

private theorem State.calls?_lt {s : State} {k : Nat} (h : s.calls? handle = some k) :
    handle < s.blocks.length := by
  obtain ⟨b, hb, -⟩ := Option.map_eq_some_iff.mp h
  exact Stack.get?_lt hb

/-- To open a block changes no count. -/
theorem Request.calls?_opened {q : Request} {k : Nat} (h : q.2.calls? handle = some k) :
    q.opened.calls? handle = some k := by
  obtain ⟨task, s⟩ := q
  cases task with
  | callback call body dot =>
    rw [State.calls?, Request.opened, Walk.openBlock, Stack.get?_cons_lt (State.calls?_lt h)]
    exact h
  | _ => exact h

section

variable {task : Task} {u t v : State} {r : Reply} {k : Nat} {m : Tally}

/-- An invocation that completes leaves one more for its own handle than it found, and for another
one what has been counted in its course. -/
theorem Request.Closes.calls?_invoke {n : Nat} {dot d : Value} {args : List Value}
    (h : Request.Closes (.invoke n dot args, u) t (.ok d, v))
    (hr : (Walk.start host (.invoke n dot args) u).Ends host (.ok d, v))
    (hu : u.calls? handle = some k) (ht : t.calls? handle = some (k + m.outer)) :
    v.calls? handle = some (k + (m.enclose handle (.invoke n dot args) (.ok d)).outer) := by
  cases hb : Walk.activeBlock? u n with
  | none =>
    rw [Walk.start, Walk.bind_run, Walk.invokeBlock, Walk.read_bind, hb] at hr
    cases hr
  | some b =>
    have hblocks := h.blocks
    rw [Request.leaves_invoke hb] at hblocks
    rw [State.calls?, hblocks, Tally.enclose]
    split
    · next hn =>
      subst hn
      obtain ⟨x, hx, -⟩ := Option.map_eq_some_iff.mp ht
      rw [State.calls?, (Walk.activeBlock?_some hb).1] at hu
      rw [Stack.get?_modify_self hx]
      exact congrArg (fun k ↦ some (k + 1)) (Option.some.inj hu)
    · next hn =>
      rw [Stack.get?_modify_ne _ hn]
      exact ht

/-- The count that a task leaves is the one that it found and what has been counted in its course,
or one more than it found where it is an invocation that completes. -/
theorem Request.Closes.calls? (h : Request.Closes (task, u) t r)
    (hr : (Walk.start host task u).Ends host r) (hrender : task.isRender = false)
    (hu : u.calls? handle = some k) (ht : t.calls? handle = some (k + m.outer)) :
    r.2.calls? handle = some (k + (m.enclose handle task r.1).outer) := by
  have hblocks := h.blocks
  have answers : Answers host u r := (Walk.start_meets task u).ends Walk.start_meets hr
  obtain ⟨o, v⟩ := r
  have kept (he : v.blocks = t.blocks) : v.calls? handle = some (k + m.outer) := by
    rw [State.calls?, he]
    exact ht
  -- the block of the callback that is closed is a newer one
  have closed (he : v.blocks = t.blocks.tail) (hl : Level host u v) :
      v.calls? handle = some (k + m.outer) := by
    have hlt : handle < t.blocks.tail.length := by
      rw [← he, hl.length_blocks]
      exact State.calls?_lt hu
    rw [State.calls?, he, Stack.get?_tail hlt]
    exact ht
  cases task with
  | walk | enter | call => exact kept hblocks
  | render => cases hrender
  | callback call body dot =>
    cases o with
    | ok _ | error _ => exact closed hblocks answers
    | panic _ => exact kept hblocks
  | invoke n dot args =>
    cases o with
    | ok d => exact h.calls?_invoke hr hu ht
    | error _ | panic _ => exact kept hblocks

end

namespace Run

variable {ends : State → α → Prop}

/-- After a request a run goes on where the count has grown by what the task has counted. -/
theorem Advances.calls?_next {task : Task} {u s : State} {next : Reply → Run α} {r : Reply}
    {m : Tally} {k : Nat} (h : (Run.ask task u next).Advances host ends s)
    (hr : (Walk.start host task u).Ends host r) (hs : s.calls? handle = some k)
    (hm : ∀ k, u.calls? handle = some k →
      ∃ t, t.calls? handle = some (k + m.outer) ∧ Request.Closes (task, u) t r) :
    ∃ t, (next r).Advances host ends t ∧
      t.calls? handle = some (k + (m.enclose handle task r.1).outer) := by
  obtain ⟨hu, hsu, hn⟩ := h
  have hnext := hn r (Walk.start_answered hu hr)
  cases hrender : task.isRender with
  | true =>
    rw [hrender] at hnext
    have hzero : m.enclose handle task r.1 = 0 := by
      cases task with
      | render => rfl
      | _ => cases hrender
    rw [hzero]
    exact ⟨s, hnext, hs⟩
  | false =>
    rw [hrender] at hnext
    have huk : u.calls? handle = some k := by
      rw [State.calls?, (hsu hrender).blocks]
      exact hs
    obtain ⟨t, ht, hclose⟩ := hm k huk
    exact ⟨r.2, hnext, hclose.calls? hr hrender huk ht⟩

/-- In the course of a run a count grows by the number of invocations that complete and that no
other one encloses. -/
theorem Tallies.calls? {x : Run α} {a : α} {n : Tally} {s : State} {k : Nat}
    (h : x.Tallies host handle a n) (hx : x.Advances host ends s)
    (hs : s.calls? handle = some k) :
    ∃ t, t.calls? handle = some (k + n.outer) ∧ ends t a := by
  induction h generalizing s k with
  | done a => exact ⟨s, hs, hx⟩
  | @ask _ task u next r a m n hr _ ihr iha =>
    obtain ⟨t, hnext, ht⟩ := hx.calls?_next hr.ends hs fun k hk ↦
      ihr (Walk.start_advances task hx.1) (Request.calls?_opened hk)
    obtain ⟨t', ht', he⟩ := iha hnext ht
    exact ⟨t', by rw [ht', Tally.outer_add, Nat.add_assoc], he⟩

/-- The count that a task finds which a run asks for. -/
theorem TalliesUntil.calls? {x : Run α} {q : Request} {n : Tally} {s : State} {k : Nat}
    (h : x.TalliesUntil host handle q n) (hx : x.Advances host ends s)
    (hq : q.1.isRender = false) (hs : s.calls? handle = some k) :
    q.2.calls? handle = some (k + n.outer) := by
  induction h generalizing s k with
  | now =>
    rw [State.calls?, (hx.2.1 hq).blocks]
    exact hs
  | @later task u next r q m n hr _ ih =>
    obtain ⟨t, hnext, ht⟩ := hx.calls?_next hr.ends hs fun k hk ↦
      hr.calls? (Walk.start_advances task hx.1) (Request.calls?_opened hk)
    rw [ih hnext hq ht, Tally.outer_add, Nat.add_assoc]

/-- The count that a task leaves. -/
theorem Tallies.calls?_start {task : Task} {u : State} {r : Reply} {n : Tally} {k : Nat}
    (h : (Walk.start host task u).Tallies host handle r n) (hu : u.HoldsText)
    (hr : task.isRender = false) (hk : u.calls? handle = some k) :
    r.2.calls? handle = some (k + (n.enclose handle task r.1).outer) := by
  obtain ⟨t, ht, hclose⟩ := h.calls? (Walk.start_advances task hu) (Request.calls?_opened hk)
  exact hclose.calls? h.ends hr hk ht

end Run

/-- The block of a callback counts the invocations that have completed and that no other completed
one encloses. -/
theorem Callback.Tallies.calls? {start q : Request} {c : Callback} {stack : List Request}
    {n : Tally}
    (h : c.Tallies host (q :: stack) n) (hm : Moment host start (q :: stack))
    (hs : start.2.HoldsText) : q.opened.calls? c.handle = some n.outer := by
  generalize hl : q :: stack = moment at h
  induction h generalizing q stack with
  | opened =>
    cases hl
    exact congrArg (Option.map Block.calls) (Stack.get?_cons_length _ _)
  | @ask q parent rest m n _ hrender hn ih =>
    cases hl
    have hparent := ih hm.outer rfl
    have htext := hm.outer.holdsText hs parent List.mem_cons_self
    exact Request.calls?_opened (hn.calls? (Walk.start_advances parent.1 htext) hrender hparent)

/-! ### Invocations -/

/-- What a run of a body that completes makes of the variables with which the body ends: it drops
those that are new, and sets the first variable of the block to its count. -/
theorem Walk.of_runBody_completes {b : Block} {dot : Value} {s v : State}
    (h : (runBody handle b dot s).Ends host (.ok (), v)) :
    ∃ x, (start host (.walk b.body dot) s).Ends host x ∧
      v.vars = Bindings.setAt (x.2.vars.take s.vars.length) b.base (.ofNat (b.calls + 1)) := by
  rw [runBody, read_bind] at h
  obtain ⟨_, _, hw, hcount⟩ := of_bind_ends_ok h
  obtain ⟨u, hu, rfl⟩ := of_after_ends hw trivial
  obtain ⟨x, hx⟩ := of_perform_ends hu
  obtain ⟨_, _, hset, hvar⟩ := of_bind_ends_ok hcount
  cases of_changeAt_ends hset trivial
  cases of_changeAt_ends hvar trivial
  exact ⟨(x, u), hx, rfl⟩

private theorem Invocation.calls?_of_block? {i : Invocation} {b : Block} (h : i.block? = some b) :
    i.state.calls? i.handle = some b.calls :=
  congrArg (Option.map Block.calls) (Walk.activeBlock?_some h).1

/-- The bookkeeping of an invocation that finds a block. The body begins with the arguments of the
invocation and their number. When the invocation completes, the block counts one run more than the
invocation found, whatever has been counted since, and so says the first variable of the block; the
other variables are as the body left them. When it fails, what has been counted stays. -/
structure Invocation.Books (host : Host) (i : Invocation) (b : Block) : Prop where
  begins : ∃ u, (i.run host).Asks host (.walk b.body i.dot) u ∧ u.vars = i.begun b.base
  completes : ∀ d v, (i.run host).Ends host (.ok d, v) →
    v.calls? i.handle = some (b.calls + 1) ∧
      ∃ x, (Walk.start host (.walk b.body i.dot) (i.state.withArguments b i.args)).Ends host x ∧
        v.vars = Bindings.setAt (x.2.vars.take i.state.vars.length) b.base (.ofNat (b.calls + 1))
  fails : ∀ error v n, (i.run host).Tallies host i.handle (.error error, v) n →
    v.calls? i.handle = some (b.calls + n.outer)

private theorem Invocation.books {i : Invocation} {b : Block} (hb : i.block? = some b)
    (hs : i.state.HoldsText) : i.Books host b where
  begins := ⟨_, Invocation.asks_iff.mpr ⟨b, hb, rfl, rfl⟩, rfl⟩
  completes := by
    intro d v h
    obtain ⟨n, hn⟩ := h.exists_tally i.handle
    have hv := hn.calls?_start hs rfl (calls?_of_block? hb)
    rw [Tally.enclose, if_pos rfl] at hv
    refine ⟨hv, ?_⟩
    rw [run, Walk.start] at h
    obtain ⟨_, u, hrun, hd⟩ := Walk.of_bind_ends_ok h
    cases hd
    rw [Walk.invokeBlock_some i.args hb] at hrun
    obtain ⟨x, hx, hvars⟩ := Walk.of_runBody_completes hrun
    have hmark : (i.state.withArguments b i.args).vars.length = i.state.vars.length := by
      simp [State.withArguments]
    rw [hmark] at hvars
    exact ⟨x, hx, hvars⟩
  fails := by
    intro error v n h
    exact h.calls?_start hs rfl (calls?_of_block? hb)

section

variable {c : Callback} {i : Invocation} {b : Block}

/-- The block that an invocation finds is that of the callback with its number. -/
theorem Invocation.fresh_of_block? {e : Executor} {tree : Tree} {data : Value} {w : Writer}
    {r : Resources} (used : Moment host (e.request tree data w r) i.moment) (hc : c.IsOpen i.below)
    (hn : c.handle = i.handle) (hb : i.block? = some b) : b.fresh = c.block := by
  obtain ⟨b', hf, hb'⟩ := Invocation.block?_of_isOpen used hc hn
  rw [hb] at hb'
  split at hb'
  · cases hb'
    exact hf
  · cases hb'

/-- An invocation overwrites no variable of the block but those of the arguments. -/
theorem Invocation.getElem?_begun (i : Invocation) (base : Nat) :
    (i.begun base)[base]? = i.state.vars[base]? := by
  rw [begun, Bindings.setAt, List.getElem?_modify_ne _ _ (by omega), Bindings.setAt,
    List.getElem?_modify_ne _ _ (by omega)]

/-- In the scope of its callback an invocation begins the body with the count that the first
variable of the block holds, and with its own arguments and their number. -/
theorem InScope.exists_reads (h : InScope host c i) (hb : i.block? = some b)
    (hbase : b.base = c.state.vars.length) :
    ∃ u count, (i.run host).Asks host (.walk c.body i.dot) u ∧
      i.state.vars[b.base]? = some ("$0", count) ∧ u.lookup "$0" = some count ∧
      u.lookup "$@" = some (i.state.resources.hold (.list i.args none)).1 ∧
      u.lookup "$!" = some (.ofNat i.args.length) := by
  obtain ⟨count, u, ha, hu⟩ := h.begins
  have own (name : String) {v : Value} (hv : (i.ownVariables count).lookup name = some v) :
      u.lookup name = some v := by
    rw [State.lookup_eq, hu, Bindings.lookup_append, hv, Option.some_or, Option.some_or]
  refine ⟨u, count, ha, ?_, own _ rfl, own _ rfl, own _ rfl⟩
  obtain ⟨b', hb', -, rfl⟩ := Invocation.asks_iff.mp ha
  cases hb.symm.trans hb'
  have hlt : b.base + 3 ≤ i.state.vars.length := (Walk.activeBlock?_some hb).2
  have hfront : (i.state.vars.take c.state.vars.length).length = b.base := by
    rw [List.length_take]
    omega
  calc i.state.vars[b.base]?
      = (i.begun b.base)[b.base]? := (i.getElem?_begun b.base).symm
    _ = (i.state.vars.take c.state.vars.length ++ i.ownVariables count)[b.base]? :=
        congrArg (fun vars : Bindings ↦ vars[b.base]?) hu
    _ = some ("$0", count) := by
        rw [List.getElem?_append_right (Nat.le_of_eq hfront), hfront, Nat.sub_self]
        rfl

end

/-! ### An invocation within another one -/

/-- A host whose functions run the outermost block: twice with one argument and a true dot, and
without arguments of their own once with two arguments and a false dot. -/
def nestingHost : Host where
  plain _ _ _ := .fail .needsRender
  stateful
    | _, _, [] => .runBlock 0 (.bool false) [.text "i", .text "j"] false
        (.orFail fun _ ↦ .done .nothing)
    | _, _, _ => .runBlock 0 (.bool true) [.text "o"] false (.orFail fun _ ↦
        .runBlock 0 (.bool true) [.text "o"] false (.orFail fun _ ↦ .done .nothing))
  build _ _ := .fail .needsRender

/-- The body of a callback, which calls the second function if the dot is true. -/
def nestingBody : List Node :=
  [.branch .cond ⟨0, 0⟩ (.ofForms [[.dot]]) [.action ⟨0, 0⟩ (.ofForms [[.identifier "nest"]])]
      none,
    .list ⟨0, 0⟩ []]

/-- A template with a callback of the first function. -/
def nestingTree : Tree := .ofNodes "t" [.callback [[.identifier "nest"]] nestingBody]

/-- The request of the render of the template. -/
def nestingRequest : Request :=
  let function : Function := .mk ⟨.atLeast 0, .nothing⟩ true (.host 0) [] none none
  let executor := (Executor.root (.empty "t") ⟨"t", some nestingTree, .empty⟩ 0).withScope
    ⟨[[("nest", .direct function)]]⟩ 0
  executor.request nestingTree .invalid .unlimited (.initial .nil)

/-- The render with the callback open: its count, the arguments and their number, and the numbers
that have been given out. -/
def nestingState (calls : Nat) (args : List Value) (cell : Nat) (subject : Subject) : State :=
  { nestingRequest.2 with
    vars := [("$", .invalid), ("$0", .ofNat calls), ("$@", .list args (some cell)),
      ("$!", .ofNat args.length)]
    blocks := [⟨nestingBody, 1, calls⟩]
    place := some (⟨0, 0⟩, subject)
    resources := { Resources.initial .nil with nextNumber := cell + 1 } }

/-- The place of a call of the function. -/
def nestingCall : Subject := .operand (.mk ⟨0, 0⟩ (.identifier "nest"))

private theorem nesting_inner :
    (Walk.start nestingHost (.invoke 0 (.bool false) [.text "i", .text "j"])
        (nestingState 0 [.text "o"] 0 nestingCall)).Tallies nestingHost 0
      (.ok .invalid, nestingState 1 [.text "i", .text "j"] 1 nestingCall) 0 :=
  .after rfl (.after rfl (.value rfl) (.value rfl) rfl) (.value rfl) rfl

private theorem nesting_called :
    (Walk.start nestingHost (.walk [.action ⟨0, 0⟩ (.ofForms [[.identifier "nest"]])] (.bool true))
        (nestingState 0 [.text "o"] 0 (.operand (.mk ⟨0, 0⟩ .dot)))).Tallies nestingHost 0
      (.ok .invalid, nestingState 1 [.text "i", .text "j"] 1 nestingCall) ⟨1, 0⟩ :=
  .after rfl nesting_inner (.value rfl) rfl

private theorem nesting_outer : ∃ call dot u s,
    Moment nestingHost nestingRequest [(.invoke 0 (.bool true) [.text "o"], s),
      (.callback call nestingBody dot, u), nestingRequest] ∧
    (Walk.start nestingHost (.invoke 0 (.bool true) [.text "o"]) s).Asks nestingHost
      (.walk nestingBody (.bool true)) (nestingState 0 [.text "o"] 0 nestingCall) ∧
    (Walk.start nestingHost (.walk nestingBody (.bool true))
      (nestingState 0 [.text "o"] 0 nestingCall)).Asks nestingHost (.walk [] (.bool true))
        (nestingState 1 [.text "i", .text "j"] 1 (.node (.list ⟨0, 0⟩ []))) ∧
    (Walk.start nestingHost (.callback call nestingBody dot) u).TalliesUntil nestingHost 0
      (.invoke 0 (.bool true) [.text "o"], nestingState 1 [.text "i", .text "j"] 1 nestingCall)
      ⟨1, 1⟩ ∧ u.blocks = [] :=
  ⟨_, _, _, _, .ask (.ask .start (.first rfl)) (.first rfl), .first rfl,
    .after rfl nesting_called.ends (.first rfl),
    .after rfl
      (.after rfl
        (.after rfl nesting_called (.after rfl (.value rfl) (.value rfl) rfl) rfl)
        (.value rfl) rfl)
      (.first rfl) rfl,
    rfl⟩

/-- Where a body runs itself, with two arguments, it then finds two arguments where it was given
one, and the next invocation finds one that has completed where two have. -/
theorem not_tallied_nested : ∃ (c : Callback) (i j : Invocation) (q : Request) (n : Tally),
    (∃ v, Moment nestingHost nestingRequest (q :: (.walk c.body i.dot, v) :: i.moment)) ∧
      c.IsOpen i.below ∧ c.handle = i.handle ∧ i.args.length = 1 ∧
      q.2.lookup "$!" = some (.ofNat 2) ∧
      Moment nestingHost nestingRequest j.moment ∧ c.IsOpen j.below ∧ c.handle = j.handle ∧
      c.Tallies nestingHost j.moment n ∧ n.total = 2 ∧
      ∃ v, (j.run nestingHost).Asks nestingHost (.walk c.body j.dot) v ∧
        v.lookup "$0" = some (.ofNat 1) := by
  obtain ⟨call, dot, u, s, used, first, walked, second, hu⟩ := nesting_outer
  let c : Callback := ⟨call, nestingBody, dot, u, [nestingRequest]⟩
  have hc : c.IsOpen c.moment := ⟨[], rfl, List.forall_mem_nil _⟩
  have hn : c.handle = 0 := by
    rw [Callback.handle, hu]
    rfl
  have completed : c.Tallies nestingHost ((.invoke 0 (.bool true) [.text "o"],
      nestingState 1 [.text "i", .text "j"] 1 nestingCall) :: c.moment) (0 + ⟨1, 1⟩) := by
    refine .ask .opened rfl ?_
    rw [hn]
    exact second
  exact ⟨c, ⟨0, .bool true, [.text "o"], s, c.moment⟩,
    ⟨0, .bool true, [.text "o"], nestingState 1 [.text "i", .text "j"] 1 nestingCall, c.moment⟩,
    (_, _), _, ⟨_, .ask (.ask used first) walked⟩, hc, hn, rfl, rfl, .ask used.outer second.asks,
    hc, hn, completed, rfl, _, .first rfl, rfl⟩

/-! ### Invocations in general -/

/-- The block of an open callback has counted the invocations of its handle that have completed, but
for those that another completed one encloses; so it has counted all of them exactly if there are
none of that kind. In the scope of the callback an invocation begins the body with its own arguments
and their number. -/
theorem invocation_tallied {e : Executor} {tree : Tree} {data : Value} {w : Writer} {r : Resources}
    {c : Callback} {i : Invocation} {b : Block}
    (used : Moment host (e.request tree data w r) i.moment) (hc : c.IsOpen i.below)
    (hn : c.handle = i.handle) (hb : i.block? = some b) :
    b.fresh = c.block ∧ (∃ n, c.Tallies host i.moment n) ∧
      (∀ n, c.Tallies host i.moment n →
        b.calls = n.outer ∧ (b.calls = n.total ↔ n.inner = 0)) ∧
      i.Books host b ∧
      (InScope host c i → ∃ u count, (i.run host).Asks host (.walk c.body i.dot) u ∧
        i.state.vars[b.base]? = some ("$0", count) ∧ u.lookup "$0" = some count ∧
        u.lookup "$@" = some (i.state.resources.hold (.list i.args none)).1 ∧
        u.lookup "$!" = some (.ofNat i.args.length)) := by
  have hs : (e.request tree data w r).2.HoldsText := State.holdsText_of_nil rfl
  have hf := Invocation.fresh_of_block? used hc hn hb
  refine ⟨hf, ?_, ?_, ?_, ?_⟩
  · obtain ⟨above, ha, hr⟩ := hc
    have hm : i.moment = ((.invoke i.handle i.dot i.args, i.state) :: above) ++ c.moment := by
      rw [Invocation.moment, ha, List.cons_append]
    rw [hm] at used ⊢
    exact used.exists_tally (List.forall_mem_cons.mpr ⟨rfl, hr⟩)
  · intro n h
    have hk := h.calls? used hs
    rw [hn] at hk
    have hcalls : b.calls = n.outer :=
      Option.some.inj ((Invocation.calls?_of_block? hb).symm.trans hk)
    refine ⟨hcalls, ?_⟩
    rw [hcalls, Tally.total]
    omega
  · exact i.books hb (used.holdsText hs _ List.mem_cons_self)
  · intro hscope
    exact hscope.exists_reads hb (congrArg Block.base hf)

/-- The second invocation from outside finds a count that leaves out the one from inside. -/
theorem invocation_tallied_nested : ∃ (c : Callback) (i : Invocation) (b : Block) (n : Tally),
    Moment nestingHost nestingRequest i.moment ∧ c.IsOpen i.below ∧ c.handle = i.handle ∧
      i.block? = some b ∧ c.Tallies nestingHost i.moment n ∧ n.inner = 1 ∧ b.calls = n.outer ∧
      b.calls ≠ n.total ∧ i.Books nestingHost b := by
  obtain ⟨call, dot, u, s, used, -, -, second, hu⟩ := nesting_outer
  let c : Callback := ⟨call, nestingBody, dot, u, [nestingRequest]⟩
  let i : Invocation :=
    ⟨0, .bool true, [.text "o"], nestingState 1 [.text "i", .text "j"] 1 nestingCall, c.moment⟩
  have hc : c.IsOpen i.below := ⟨[], rfl, List.forall_mem_nil _⟩
  have hn : c.handle = i.handle := by
    rw [Callback.handle, hu]
    rfl
  have completed : c.Tallies nestingHost i.moment (0 + ⟨1, 1⟩) := by
    refine .ask .opened rfl ?_
    rw [hn]
    exact second
  have hm : Moment nestingHost nestingRequest i.moment := .ask used.outer second.asks
  obtain ⟨-, -, hcalls, hbooks, -⟩ := invocation_tallied (b := ⟨nestingBody, 1, 1⟩) hm hc hn rfl
  obtain ⟨houter, htotal⟩ := hcalls _ completed
  refine ⟨c, i, _, _, hm, hc, hn, rfl, completed, rfl, houter, ?_, hbooks⟩
  intro h
  cases htotal.mp h

end TextTemplate
