import TextTemplate.Proofs.Tasks

/-!
# Open callbacks

The active blocks of a render are those of the callbacks that are open in it: each callback opens a
block, with its number as the handle, and closes it when its function has returned. Between the
two, and until another template is entered, the variables are those of the callback's node, then
those of the block, and then maybe more.
-/

set_option autoImplicit false

namespace TextTemplate

variable {host : Host}

/-- The request that a render of a template begins with. -/
def Executor.request (e : Executor) (tree : Tree) (data : Value) (w : Writer) (r : Resources) :
    Request :=
  (.walk tree.root data, .initial e data w r)

namespace Task

/-- Whether a task begins another render. -/
def isRender : Task → Bool
  | .render _ _ => true
  | _ => false

/-- Whether a task enters another template. -/
def isEnter : Task → Bool
  | .enter _ _ => true
  | _ => false

end Task

namespace Request

/-- The block that a task opens. -/
def block? : Request → Option Block
  | (.callback _ body _, s) => some ⟨body, s.vars.length, 0⟩
  | _ => none

/-- The state in which a task does what it asks for. -/
def opened : Request → State
  | (.callback _ body _, s) => Walk.openBlock body s
  | (_, s) => s

end Request

private theorem Request.built_opened (r : Request) : r.opened.built = r.2.built := by
  obtain ⟨task, s⟩ := r
  cases task <;> rfl

private theorem Request.blocks_opened (r : Request) :
    r.opened.blocks.map Block.fresh = r.block?.toList ++ r.2.blocks.map Block.fresh := by
  obtain ⟨task, s⟩ := r
  cases task <;> rfl

/-- The blocks of the callbacks that are open in the render of the innermost task. -/
def openBlocks : List Request → List Block
  | [] => []
  | r :: rest => if r.1.isRender then [] else r.block?.toList ++ openBlocks rest

/-! ### The state in which a task is asked for -/

/-- A task is asked for with the blocks that are there, and with the variables that are there and
maybe more, unless it begins another render or enters another template. Only factories add to the
functions that are built. -/
structure Within (host : Host) (s : State) (task : Task) (u : State) : Prop where
  blocks : u.blocks.map Block.fresh = if task.isRender then [] else s.blocks.map Block.fresh
  vars : task.isRender = false → task.isEnter = false → s.vars.names <+: u.vars.names
  built : ∀ entry ∈ u.built, entry ∈ s.built ∨ host.Builds entry.1 entry.2

private theorem Level.within {s u : State} {task : Task} (h : Level host s u)
    (hr : task.isRender = false) : Within host s task u where
  blocks := by rw [hr]; exact h.blocks
  vars _ _ := h.names
  built := h.built

/-- A nested render begins without blocks. -/
@[simp] theorem Walk.blocks_nestedState (s : State) (template : Template) (data : Value) :
    (Walk.nestedState s template data).blocks = [] := by
  simp only [Walk.nestedState]
  split
  · rfl
  · rfl

/-- A nested render begins without functions that have been built. -/
@[simp] theorem Walk.built_nestedState (s : State) (template : Template) (data : Value) :
    (Walk.nestedState s template data).built = [] := by
  simp only [Walk.nestedState]
  split
  · rfl
  · rfl

private theorem State.Requests.within {calls : Value → List Value → Prop} {s u : State}
    {task : Task} (h : s.Requests host calls task u) : Within host s task u := by
  cases h with
  | call _ hu | invoke hu => exact hu.within rfl
  | capture hu | before _ _ hu => exact ⟨hu.blocks, fun _ _ ↦ hu.names, hu.built⟩
  | render => exact ⟨by simp [Task.isRender], fun hr ↦ (by cases hr), by simp⟩

private theorem Node.Requests.within {n : Node} {s u : State} {task : Task}
    (h : n.Requests host s task u) : Within host s task u := by
  cases h with
  | eval h => exact h.within
  | part _ hu | callback hu => exact hu.within rfl
  | content hu | argument hu => exact ⟨hu.blocks, fun _ _ ↦ hu.names, hu.built⟩
  | enter _ _ hu => exact ⟨hu.blocks, fun _ he ↦ (by cases he), hu.built⟩

/-- What a task asks for is within the state in which the task walks. -/
theorem Run.Asks.within {r : Request} {task : Task} {s : State}
    (h : (Walk.start host r.1 r.2).Asks host task s) : Within host r.opened task s := by
  obtain ⟨t, u⟩ := r
  have ha := (Walk.start_meets t u).asked Walk.start_meets h
  cases t with
  | walk nodes dot | enter nodes dot | render nodes dot =>
    obtain ⟨n, -, hn⟩ := ha
    exact hn.within
  | call f args => exact State.Requests.within ha
  | invoke handle dot args =>
    obtain ⟨b, -, rfl, rfl⟩ := ha
    have began : Level host u (u.withArguments b args) := (Level.refl u).withArguments b args
    exact began.within rfl
  | callback call body dot => exact State.Requests.within ha

/-! ### Moments of a render -/

variable {e : Executor} {tree : Tree} {data : Value} {w : Writer} {r : Resources}

/-- The active blocks are those of the open callbacks. -/
theorem Moment.openBlocks_eq {request : Request} {rest : List Request}
    (h : Moment host (e.request tree data w r) (request :: rest)) :
    request.opened.blocks.map Block.fresh = openBlocks (request :: rest) := by
  generalize hl : request :: rest = stack at h
  induction h generalizing request rest with
  | start =>
    cases hl
    rfl
  | @ask task s stack parent hm ha ih =>
    cases hl
    rw [Request.blocks_opened, ha.within.blocks, ih rfl]
    simp only [openBlocks]
    cases task with
    | render => rfl
    | _ => rfl

/-- What is built in a render was built by factories. -/
theorem Moment.built {stack : List Request} (h : Moment host (e.request tree data w r) stack) :
    ∀ request ∈ stack, ∀ entry ∈ request.2.built, host.Builds entry.1 entry.2 := by
  induction h with
  | start =>
    intro request hr entry he
    cases List.mem_singleton.mp hr
    cases he
  | @ask task s stack parent hm ha ih =>
    refine List.forall_mem_cons.mpr ⟨?_, ih⟩
    intro entry he
    rcases ha.within.built entry he with hp | hb
    · rw [parent.built_opened] at hp
      exact ih parent List.mem_cons_self entry hp
    · exact hb

/-! ### Handles of open callbacks -/

/-- A callback in a run: its task, the state in which it begins, and the tasks that are open
around it. -/
structure Callback where
  call : Command
  body : List Node
  dot : Value
  state : State
  below : List Request

namespace Callback

/-- The moment at which a callback begins. -/
def moment (c : Callback) : List Request := (.callback c.call c.body c.dot, c.state) :: c.below

/-- The handle that the function of a callback receives. -/
def handle (c : Callback) : Nat := c.state.blocks.length

/-- The block of a callback at its start. -/
def block (c : Callback) : Block := ⟨c.body, c.state.vars.length, 0⟩

/-- A callback is among the open tasks, in the render of the innermost one. -/
def IsOpen (c : Callback) (stack : List Request) : Prop :=
  ∃ above, stack = above ++ c.moment ∧ ∀ r ∈ above, r.1.isRender = false

end Callback

variable {c : Callback} {stack above : List Request}

private theorem openBlocks_append (h : ∀ r ∈ above, r.1.isRender = false) (stack : List Request) :
    openBlocks (above ++ stack) = above.filterMap Request.block? ++ openBlocks stack := by
  induction above with
  | nil => rfl
  | cons r above ih =>
    rw [List.forall_mem_cons] at h
    rw [List.cons_append, openBlocks, ih h.2]
    cases hb : r.block? <;> simp [h.1, hb]

private theorem openBlocks_callback (c : Callback) :
    openBlocks c.moment = c.block :: openBlocks c.below := rfl

/-- A callback has as many blocks around it as callbacks are open around it. -/
theorem Moment.handle_eq (h : Moment host (e.request tree data w r) c.moment) :
    c.handle = (openBlocks c.below).length := by
  have hb : c.state.blocks.map Block.fresh = openBlocks c.below :=
    (List.cons.inj h.openBlocks_eq).2
  rw [← hb, List.length_map, Callback.handle]

/-- The handle of a callback names its block as long as the callback is open. -/
theorem Callback.IsOpen.get?_handle (h : c.IsOpen stack)
    (hm : Moment host (e.request tree data w r) c.moment) :
    Stack.get? (openBlocks stack) c.handle = some c.block := by
  obtain ⟨above, rfl, ha⟩ := h
  rw [openBlocks_append ha, openBlocks_callback, hm.handle_eq,
    Stack.get?_append_lt (Nat.lt_succ_self _), Stack.get?_cons_length]

/-- A callback that is open around a task was begun at some moment. -/
theorem Callback.IsOpen.moment {request : Request} (h : c.IsOpen stack)
    (hm : Moment host (e.request tree data w r) (request :: stack)) :
    Moment host (e.request tree data w r) c.moment := by
  obtain ⟨above, rfl, -⟩ := h
  rw [← List.cons_append] at hm
  exact hm.suffix (List.cons_ne_nil _ _)

/-- A block that a number names is that of an open callback. -/
theorem exists_isOpen {n : Nat} {b : Block} (h : Stack.get? (openBlocks stack) n = some b) :
    ∃ c : Callback, c.IsOpen stack ∧ (openBlocks c.below).length = n ∧ c.block = b := by
  induction stack with
  | nil => cases h
  | cons request rest ih =>
    have deeper (hn : request.1.isRender = false)
        (h : Stack.get? (openBlocks rest) n = some b) :
        ∃ c : Callback, c.IsOpen (request :: rest) ∧ (openBlocks c.below).length = n ∧
          c.block = b := by
      obtain ⟨c, ⟨above, rfl, ha⟩, hc⟩ := ih h
      exact ⟨c, ⟨request :: above, rfl, List.forall_mem_cons.mpr ⟨hn, ha⟩⟩, hc⟩
    obtain ⟨task, s⟩ := request
    cases task with
    | render => cases h
    | callback call body dot =>
      rcases Stack.of_get?_cons h with ⟨rfl, hb⟩ | ⟨-, h⟩
      · exact ⟨⟨call, body, dot, s, rest⟩, ⟨[], rfl, List.forall_mem_nil _⟩, rfl, hb⟩
      · exact deeper rfl h
    | walk => exact deeper rfl h
    | enter => exact deeper rfl h
    | call => exact deeper rfl h
    | invoke => exact deeper rfl h

/-! ### Invocations -/

/-- An invocation in a run, with the state in which it begins and the tasks that are open around
it. -/
structure Invocation where
  handle : Nat
  dot : Value
  args : List Value
  state : State
  below : List Request

namespace Invocation

/-- The moment at which an invocation begins. -/
def moment (i : Invocation) : List Request := (.invoke i.handle i.dot i.args, i.state) :: i.below

/-- What an invocation does. -/
def run (host : Host) (i : Invocation) : Run Reply :=
  Walk.start host (.invoke i.handle i.dot i.args) i.state

/-- The block that an invocation finds. -/
def block? (i : Invocation) : Option Block := Walk.activeBlock? i.state i.handle

variable {i : Invocation} {b : Block}

/-- Without its block an invocation fails, and leaves the state as it was. -/
theorem run_none (h : i.block? = none) :
    i.run host = .done (.error (.new "callback is no longer active"), i.state) := by
  rw [block?] at h
  rw [run, Walk.start, Walk.bind_run, Walk.invokeBlock, Walk.read_bind, h]
  rfl

/-- An invocation asks for the body of the block that it finds, and for nothing else. -/
theorem asks_iff {task : Task} {v : State} :
    (i.run host).Asks host task v ↔
      ∃ b, i.block? = some b ∧ task = .walk b.body i.dot ∧ v = i.state.withArguments b i.args := by
  constructor
  · exact (Walk.start_meets _ i.state).asked Walk.start_meets
  · rintro ⟨b, hb, rfl, rfl⟩
    rw [run, Walk.start, Walk.bind_run, Walk.invokeBlock_some i.args hb]
    exact .now

/-- An invocation finds the block of an open callback. -/
theorem exists_callback (h : Moment host (e.request tree data w r) i.moment)
    (hb : i.block? = some b) :
    ∃ c : Callback, c.IsOpen i.below ∧ c.handle = i.handle ∧ c.block = b.fresh := by
  have ho : i.state.blocks.map Block.fresh = openBlocks i.below := h.openBlocks_eq
  have hf : Stack.get? (openBlocks i.below) i.handle = some b.fresh := by
    rw [← ho, Stack.get?_map, (Walk.activeBlock?_some hb).1]
    rfl
  obtain ⟨c, hc, hl, hcb⟩ := exists_isOpen hf
  exact ⟨c, hc, (hc.moment h).handle_eq.trans hl, hcb⟩

/-- Where a callback with its number is open, an invocation finds the block of the callback if
the variables reach that far, and no block otherwise. -/
theorem block?_of_isOpen (h : Moment host (e.request tree data w r) i.moment)
    (hc : c.IsOpen i.below) (hn : c.handle = i.handle) :
    ∃ b, b.fresh = c.block ∧
      i.block? = if c.state.vars.length + 3 ≤ i.state.vars.length then some b else none := by
  have ho : i.state.blocks.map Block.fresh = openBlocks i.below := h.openBlocks_eq
  have hg := hn ▸ hc.get?_handle (hc.moment h)
  rw [← ho, Stack.get?_map, Option.map_eq_some_iff] at hg
  obtain ⟨b, hb, hf⟩ := hg
  have hbase : b.base = c.state.vars.length := congrArg Block.base hf
  refine ⟨b, hf, ?_⟩
  rw [block?, Walk.activeBlock?, hb, Option.filter_some, hbase]
  simp only [decide_eq_true_eq]

end Invocation

end TextTemplate
