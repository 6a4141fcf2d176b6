import TextTemplate.Proofs.Anatomy
import TextTemplate.Proofs.Callback
import TextTemplate.Proofs.Contract
import TextTemplate.Proofs.Evaluation
import TextTemplate.Proofs.Factory

/-!
# What is built for a render

A render keeps what the factories build for it (`State.built`), and uses that again. Every task
builds for its render as it goes on (`Walk.start_builds`): it keeps at most one function of each
factory, and each build of a factory that is counted is one of a function that it has come to keep.
A render that it begins keeps what is built for that one apart, but counts in the same state of the
host.
-/

set_option autoImplicit false

namespace TextTemplate

variable {α β : Type} {host : Host} {id : Nat} {count : Value → Nat}

/-! ### What is built between two states -/

namespace State

/-- The factories whose functions a render keeps. -/
def factories (s : State) : List Nat := s.built.map Prod.fst

/-- The count in the host's state. -/
def counted (s : State) (count : Value → Nat) : Nat := count s.resources.hostState

/-- A render comes from one state to another: it goes on to keep what is built, at most one function
of each factory, and for a number of times it has come to keep one of a factory. -/
structure Keeps (id : Nat) (n : Int) (s t : State) : Prop where
  kept : s.built <:+ t.built
  nodup : s.factories.Nodup → t.factories.Nodup
  number : s.factories.count id + n = t.factories.count id

/-- A render comes from one state to another, and each build that is counted is one of a function
that it has come to keep. -/
def Builds (id : Nat) (count : Value → Nat) (s t : State) : Prop :=
  s.Keeps id (t.counted count - s.counted count) t

variable {s t u : State}

/-- A render keeps a function of those factories whose function it finds. -/
theorem lookup_isSome (s : State) (n : Nat) :
    (s.built.lookup n).isSome = true ↔ n ∈ s.factories := by
  rw [List.lookup_isSome_iff, factories, List.mem_map]
  simp only [beq_iff_eq]
  exact ⟨fun ⟨e, he, hn⟩ ↦ ⟨e, he, hn.symm⟩, fun ⟨e, he, hn⟩ ↦ ⟨e, he, hn.symm⟩⟩

private theorem lookup_none {n : Nat} (h : s.built.lookup n = none) : n ∉ s.factories := by
  rw [← lookup_isSome, h]
  exact Bool.false_ne_true

/-- Of a factory that is not built twice, a render keeps one function or none. -/
theorem factories_count (h : s.factories.Nodup) (n : Nat) :
    s.factories.count n = if (s.built.lookup n).isSome then 1 else 0 := by
  simp only [h.count, lookup_isSome]

/-- Where no factory is built twice, what was built before is found. -/
theorem lookup_of_suffix (h : s.built <:+ t.built) (ht : t.factories.Nodup) {n : Nat}
    {f : Function} (hf : s.built.lookup n = some f) : t.built.lookup n = some f := by
  obtain ⟨fresh, hfresh⟩ := h
  rw [factories, ← hfresh, List.map_append, List.nodup_append] at ht
  have hn : n ∈ s.factories := (lookup_isSome s n).mp (Option.isSome_of_eq_some hf)
  have hnone : fresh.lookup n = none := by
    rw [List.lookup_eq_none_iff]
    intro e he
    rw [bne_iff_ne]
    exact (ht.2.2 _ (List.mem_map_of_mem he) _ hn).symm
  rw [← hfresh, List.lookup_append, hnone, Option.none_or, hf]

namespace Keeps

variable {m n : Int}

/-- What is kept adds up from one step to the next. -/
theorem trans (h : s.Keeps id m t) (k : t.Keeps id n u) : s.Keeps id (m + n) u where
  kept := h.kept.trans k.kept
  nodup hs := k.nodup (h.nodup hs)
  number := by rw [← k.number, ← h.number, Int.add_assoc]

/-- What a render keeps does not depend on its resources. -/
theorem of_resources {r : Resources} (h : ({ s with resources := r } : State).Keeps id n t) :
    s.Keeps id n t := ⟨h.kept, h.nodup, h.number⟩

/-- What is built for a render stays what it is. -/
theorem lookup (h : s.Keeps id m t) (hs : s.factories.Nodup) {n : Nat} {f : Function}
    (hf : s.built.lookup n = some f) : t.built.lookup n = some f :=
  lookup_of_suffix h.kept (h.nodup hs) hf

/-- If nothing was built at first, then one function of a factory or none. -/
theorem of_nil (h : s.Keeps id n t) (hs : s.built = []) :
    t.factories.Nodup ∧ n = if (t.built.lookup id).isSome then 1 else 0 := by
  have hnil : s.factories = [] := by rw [factories, hs, List.map_nil]
  have hnodup := h.nodup (hnil ▸ List.nodup_nil)
  have hnumber := h.number
  rw [hnil, List.count_nil, factories_count hnodup] at hnumber
  exact ⟨hnodup, by grind⟩

end Keeps

namespace Builds

private theorem of_eq (hb : t.built = s.built) (hc : t.counted count = s.counted count) :
    s.Builds id count t where
  kept := hb ▸ List.suffix_refl _
  nodup h := by rwa [factories, hb]
  number := by rw [hc, factories, factories, hb, Int.sub_self, Int.add_zero]

private theorem refl (s : State) : s.Builds id count s := of_eq rfl rfl

/-- Each build that is counted is one of a function that is kept. -/
theorem keeps (h : s.Builds id count t) :
    s.Keeps id (t.counted count - s.counted count) t := h

private theorem trans (h : s.Builds id count t) (k : t.Builds id count u) :
    s.Builds id count u := by
  have hk := h.keeps.trans k.keeps
  have hn : (t.counted count : Int) - s.counted count + (u.counted count - t.counted count) =
      u.counted count - s.counted count := by omega
  rwa [hn] at hk

end Builds

end State

/-- A run builds for its render as it goes on from a state, whatever the replies to its requests
are. Another render that it begins has nothing built for it. -/
inductive Run.Builds (id : Nat) (count : Value → Nat) : Run (Outcome α × State) → State → Prop where
  | done {o : Outcome α} {s t : State} : s.Builds id count t → Builds id count (.done (o, t)) s
  | ask {task : Task} {s u : State} {next : Reply → Run (Outcome α × State)} :
      task.isRender = false → s.Builds id count u → (∀ r, Builds id count (next r) r.2) →
        Builds id count (.ask task u next) s
  | render {task : Task} {s t u : State} {next : Reply → Run (Outcome α × State)} :
      task.isRender = true → s.Builds id count t → u.built = [] →
        u.counted count = t.counted count →
          (∀ r, Builds id count (next r) { t with resources := r.2.resources }) →
            Builds id count (.ask task u next) s

namespace Run.Builds

variable {s t : State}

/-- What is known of a run that asks for a task of its own render. -/
theorem asked {task : Task} {u : State} {next : Reply → Run (Outcome α × State)}
    (h : (Run.ask task u next).Builds id count s) (ht : task.isRender = false) :
    s.Builds id count u ∧ ∀ r, (next r).Builds id count r.2 := by
  cases h with
  | ask _ hu hn => exact ⟨hu, hn⟩
  | render hr =>
    rw [ht] at hr
    cases hr

/-- What is known of a run that begins another render. -/
theorem asked_render {task : Task} {u : State} {next : Reply → Run (Outcome α × State)}
    (h : (Run.ask task u next).Builds id count s) (ht : task.isRender = true) :
    ∃ t, s.Builds id count t ∧ u.built = [] ∧ u.counted count = t.counted count ∧
      ∀ r, (next r).Builds id count { t with resources := r.2.resources } := by
  cases h with
  | ask hr =>
    rw [ht] at hr
    cases hr
  | render _ hs hb hk hn => exact ⟨_, hs, hb, hk, hn⟩

/-- A run that builds as it goes on from a state does so from a state before it. -/
theorem since {x : Run (Outcome α × State)} (h : x.Builds id count t) (hs : s.Builds id count t) :
    x.Builds id count s := by
  cases h with
  | done h => exact .done (hs.trans h)
  | ask ht h hn => exact .ask ht (hs.trans h) hn
  | render ht h hb hc hn => exact .render ht (hs.trans h) hb hc hn

private theorem bind {x : Run (Outcome α × State)} {f : Outcome α × State → Run (Outcome β × State)}
    (h : x.Builds id count s) (hf : ∀ o t, (f (o, t)).Builds id count t) :
    (x.bind f).Builds id count s := by
  induction h with
  | done h => exact (hf _ _).since h
  | ask ht h _ ih => exact .ask ht h ih
  | render ht h hb hc _ ih => exact .render ht h hb hc ih

end Run.Builds

/-- A step builds for its render as it goes on. -/
def Walk.Builds (id : Nat) (count : Value → Nat) (m : Walk α) : Prop :=
  ∀ s, (m s).Builds id count s

/-- The same state with other functions that are built and another state of the host. -/
def State.rebuilt (s : State) (built : List (Nat × Function)) (v : Value) : State :=
  { s with built := built, resources := { s.resources with hostState := v } }

/-- A change of the state that neither sees nor changes what is built and the host's state. -/
def State.Unbuilt (f : State → State) : Prop :=
  ∀ s built v, f (s.rebuilt built v) = (f s).rebuilt built v

private theorem State.Unbuilt.builds {f : State → State} (hf : State.Unbuilt f) (s : State) :
    s.Builds id count (f s) := by
  have hself : f s = (f s).rebuilt s.built s.resources.hostState := hf s ..
  apply State.Builds.of_eq
  · exact (congrArg State.built hself :)
  · exact (congrArg (fun s : State ↦ s.counted count) hself :)

namespace Walk.Builds

variable {m : Walk α}

/-! ### Steps that build nothing -/

private theorem pure (a : α) : (Pure.pure a : Walk α).Builds id count := fun s ↦ .done (.refl s)

private theorem fail (e : EvalError) :
    (Walk.fail e : Walk α).Builds id count :=
  fun s ↦ .done (.refl s)

private theorem ofExcept (x : Except EvalError α) : (Walk.ofExcept x).Builds id count := by
  cases x with
  | ok a => exact pure a
  | error e => exact fail e

private theorem read (f : State → α) : (Walk.read f).Builds id count := fun s ↦ .done (.refl s)

private theorem modify {f : State → State} (hf : State.Unbuilt f) :
    (Walk.modify f).Builds id count :=
  fun s ↦ .done (hf.builds s)

private theorem changeAt {length : State → Nat} {place : Nat} {f : State → State}
    (hf : State.Unbuilt f) : (Walk.changeAt length place f).Builds id count := by
  intro s
  rw [Walk.changeAt]
  split
  · exact modify hf s
  · exact .done (.refl s)

private theorem ended {f : Resources → Ended α}
    (hf : ∀ r, count (f r).2.hostState = count r.hostState) : (Walk.ended f).Builds id count :=
  fun s ↦ .done (.of_eq rfl (hf s.resources))

private theorem hold (v : Value) : (Walk.hold v).Builds id count := ended fun _ ↦ rfl

private theorem newObject (o : Object) : (Walk.newObject o).Builds id count := ended fun _ ↦ rfl

private theorem receive (channel : Nat) : (Walk.receive channel).Builds id count := by
  apply ended
  intro r
  dsimp only [Resources.receive]
  split
  · rfl
  · rfl

private theorem ask {task : Task} (h : task.isRender = false) : (Walk.ask task).Builds id count :=
  fun s ↦ .ask h (.refl s) fun r ↦ .done (.refl r.2)

private theorem bind {f : α → Walk β} (hm : m.Builds id count) (hf : ∀ a, (f a).Builds id count) :
    (m >>= f).Builds id count := by
  intro s
  rw [bind_run]
  apply (hm s).bind
  intro o t
  cases o with
  | ok a => exact hf a t
  | error e => exact .done (.refl t)
  | panic message => exact .done (.refl t)

private theorem read_bind {f : State → α} {k : α → Walk β} (hk : ∀ a, (k a).Builds id count) :
    (Walk.read f >>= k).Builds id count :=
  bind (read f) hk

private theorem modify_bind {f : State → State} {k : Unit → Walk β} (hf : State.Unbuilt f)
    (hk : ∀ u, (k u).Builds id count) : (Walk.modify f >>= k).Builds id count :=
  bind (modify hf) hk

private theorem attempt (hm : m.Builds id count) : m.attempt.Builds id count := by
  intro s
  apply (hm s).bind
  intro o t
  cases o with
  | ok a => exact .done (.refl t)
  | error e => exact .done (.refl t)
  | panic message => exact .done (.refl t)

private theorem mapError {f : State → EvalError → EvalError} (hm : m.Builds id count) :
    (m.mapError f).Builds id count := by
  intro s
  apply (hm s).bind
  intro o t
  cases o with
  | ok a => exact .done (.refl t)
  | error e => exact .done (.refl t)
  | panic message => exact .done (.refl t)

private theorem after {f : State → State} (hm : m.Builds id count) (hf : State.Unbuilt f) :
    (m.after f).Builds id count :=
  bind (attempt hm) fun result ↦ modify_bind hf fun _ ↦ ofExcept result

private theorem inScope (hm : m.Builds id count) : (Walk.inScope m).Builds id count :=
  read_bind fun _ ↦ after hm fun _ _ _ ↦ rfl

private theorem perform {task : Task} (h : task.isRender = false) :
    (Walk.perform task).Builds id count :=
  bind (ask h) fun _ ↦ pure ()

private theorem optional (nodes : Option (List Node)) (dot : Value) :
    (Walk.optional nodes dot).Builds id count := by
  cases nodes with
  | none => exact pure ()
  | some nodes => exact perform rfl

/-! ### Output -/

private theorem below (level : Nat) (nodes : List Node) (dot : Value) :
    (Walk.below level nodes dot).Builds id count :=
  read_bind fun _ ↦ modify_bind (fun _ _ _ ↦ rfl) fun _ ↦
    after (inScope (perform rfl)) fun _ _ _ ↦ rfl

private theorem sinkAt (n : Nat) : (Walk.sinkAt n).Builds id count := by
  intro s
  rw [Walk.sinkAt]
  split
  · exact .done (.refl s)
  · exact .done (.refl s)

private theorem writeBottom (bytes : ByteArray) : (Walk.writeBottom bytes).Builds id count := by
  intro s
  rw [Walk.writeBottom]
  split
  · exact .done (.of_eq rfl rfl)
  · exact .done (.of_eq rfl rfl)

private theorem writeLevel (level : Nat) (bytes : ByteArray) :
    (Walk.writeLevel level bytes).Builds id count := by
  induction level generalizing bytes with
  | zero => exact writeBottom bytes
  | succ level ih =>
    apply bind (sinkAt level)
    intro sink
    split
    · exact modify fun _ _ _ ↦ rfl
    · split
      · exact ih bytes
      · apply modify_bind fun _ _ _ ↦ rfl
        intro _
        split
        · exact pure ()
        · split
          · exact bind (below level _ _) fun _ ↦ ih _
          · exact bind (pure ()) fun _ ↦ ih _

private theorem write (bytes : ByteArray) : (Walk.write bytes).Builds id count := by
  rw [Walk.write]
  split
  · exact pure ()
  · exact read_bind fun level ↦ writeLevel level bytes

private theorem capture {m : Walk Unit} (hm : m.Builds id count) :
    (Walk.capture m).Builds id count := by
  apply read_bind
  intro level
  apply modify_bind fun _ _ _ ↦ rfl
  intro _
  apply bind (attempt hm)
  intro result
  apply modify_bind fun _ _ _ ↦ rfl
  intro _
  apply read_bind
  intro bytes
  exact modify_bind (fun _ _ _ ↦ rfl) fun _ ↦ ofExcept _

private theorem wrap (strip : Bool) (body : List Node) (before after otherwise : Option (List Node))
    (dot : Value) : (Walk.wrap strip body before after otherwise dot).Builds id count := by
  apply inScope
  apply read_bind
  intro level
  apply modify_bind fun _ _ _ ↦ rfl
  intro _
  apply bind (attempt (perform rfl))
  intro result
  apply modify_bind fun _ _ _ ↦ rfl
  intro _
  apply read_bind
  intro triggered
  apply modify_bind fun _ _ _ ↦ rfl
  intro _
  exact bind (ofExcept result) fun _ ↦ optional _ _

private theorem runBlock (handle : Nat) (dot : Value) (args : List Value) (captured : Bool) :
    (Walk.runBlock handle dot args captured).Builds id count := by
  rw [Walk.runBlock]
  split
  · exact capture (perform rfl)
  · exact bind (perform rfl) fun _ ↦ pure _

/-! ### Other renders -/

private theorem nestedState_built (s : State) (template : Template) (data : Value) :
    (Walk.nestedState s template data).built = [] ∧
      (Walk.nestedState s template data).resources.hostState = s.resources.hostState := by
  rw [Walk.nestedState]
  dsimp only
  split
  · exact ⟨rfl, rfl⟩
  · exact ⟨rfl, rfl⟩

private theorem renderNested (name : String) (data : Value) :
    (Walk.renderNested name data).Builds id count := by
  intro s
  rw [Walk.renderNested]
  cases s.callee name with
  | error e => exact .done (.refl s)
  | ok template =>
    obtain ⟨hb, hh⟩ := nestedState_built s template data
    dsimp only
    split
    · exact .done (.of_eq rfl (congrArg count hh))
    · refine .render rfl (.refl s) hb (congrArg count hh) ?_
      rintro ⟨o, inner⟩
      cases o with
      | ok v => exact .done (.refl _)
      | error e => exact .done (.refl _)
      | panic message => exact .done (.refl _)

/-! ### Functions -/

section

variable (hc : host.Counts id count) (ha : host.Avoids id)
include hc ha

private theorem plain {p : Plain α} (hp : p.Only (Uncounted count) (Misses id)) :
    (Walk.plain host p).Builds id count :=
  ended (Plain.run_count hc ha hp)

/-- A function that is not kept yet is built, and then kept. -/
theorem resolve (f : FuncValue) : (Walk.resolve host f).Builds id count := by
  cases f with
  | direct f => exact pure f
  | contextBound n =>
    intro s
    rw [Walk.resolve, Walk.read_bind]
    cases hf : s.built.lookup n with
    | some f => exact .done (.refl s)
    | none =>
      have hcount := Host.run_build_count hc ha n s.context s.resources
      dsimp only
      rw [Walk.read_bind, bind_run, Walk.plain, Walk.ended]
      generalize (host.build n s.context).run host s.resources = x at hcount
      obtain ⟨o, r⟩ := x
      cases o with
      | error e => exact .done (.of_eq rfl (hcount.trans (by rw [Outcome.builds, ite_self]; rfl)))
      | panic message =>
        exact .done (.of_eq rfl (hcount.trans (by rw [Outcome.builds, ite_self]; rfl)))
      | ok f =>
        refine .done ⟨List.suffix_cons _ _, (List.nodup_cons.mpr ⟨State.lookup_none hf, ·⟩), ?_⟩
        have hn : (n :: s.factories).count id = s.factories.count id + if n = id then 1 else 0 := by
          rw [List.count_cons]
          simp only [beq_iff_eq]
        show (s.factories.count id : Int) + (count r.hostState - count s.resources.hostState) =
          (n :: s.factories).count id
        rw [hcount, hn, Outcome.builds]
        omega

private theorem program {p : Program α} (hp : p.Only (Uncounted count) (Misses id)) :
    (Walk.program host p).Builds id count := by
  induction p with
  | finish p => exact plain hc ha hp
  | run p next ih => exact bind (attempt (plain hc ha hp.1)) fun r ↦ ih r (hp.2 r)
  | view next ih => exact read_bind fun v ↦ ih v (hp v)
  | newObject o next ih => exact bind (newObject o) fun v ↦ ih v (hp v)
  | receive channel next ih => exact bind (receive channel) fun v ↦ ih v (hp v)
  | updateStore update next ih => exact modify_bind (fun _ _ _ ↦ rfl) fun _ ↦ ih hp
  | write text next ih => exact bind (attempt (write _)) fun r ↦ ih r (hp r)
  | callValue f args next ih => exact bind (attempt (ask rfl)) fun r ↦ ih r (hp r)
  | runBlock handle dot args captured next ih =>
    exact bind (attempt (runBlock _ _ _ _)) fun r ↦ ih r (hp r)
  | render template data next ih =>
    exact bind (attempt (renderNested _ _)) fun r ↦ ih _ (hp _)
  | yield template data next ih =>
    exact bind (attempt (bind (renderNested _ _) write)) fun r ↦ ih r (hp r)

private theorem functionProgram (f : Function) (args : List Value) :
    (Walk.program host (f.program host args)).Builds id count :=
  program hc ha (f.program_only (hc.functions.both ha.functions) args)

private theorem callFunction (f : Function) (name : String) (args : List Value) :
    (Walk.callFunction host f name args).Builds id count := by
  apply bind (ofExcept _)
  intro _
  apply read_bind
  intro place
  apply bind (attempt (after (functionProgram hc ha f args) fun _ _ _ ↦ rfl))
  intro result
  cases result with
  | ok results => exact hold _
  | error e => exact fail _

private theorem callValue (f : Value) (args : List Value) :
    (Walk.callValue host f args).Builds id count := by
  rw [Walk.callValue]
  split
  · apply bind (resolve hc ha _)
    intro f
    split
    · exact bind (functionProgram hc ha f args) fun _ ↦ hold _
    · exact fail _
  · exact fail _
  · exact fail _
  · exact fail _

end

end Walk.Builds

/-! ### Tasks -/

namespace Walk

variable (hc : host.Counts id count) (ha : host.Avoids id)
include hc ha

/-- What evaluation and walks are made of builds for the render as it goes on. -/
theorem Made.builds {m : Walk α} (h : Made host m) : m.Builds id count := by
  induction h with
  | pure a => exact .pure a
  | fail _ => exact .fail _
  | read _ => exact .read _
  | find _ _ => exact .bind (.read _) .ofExcept
  | hold v => exact .hold v
  | newObject o => exact .newObject o
  | receive channel => exact .receive channel
  | setVars _ => exact .modify fun _ _ _ ↦ rfl
  | setPlace => exact .modify fun _ _ _ ↦ rfl
  | resolve f => exact .resolve hc ha f
  | call f name args => exact .callFunction hc ha f name args
  | text s => exact .write _
  | nodes => exact .perform rfl
  | callback => exact .ask rfl
  | collect => exact .capture (.perform rfl)
  | wrap strip body before after otherwise dot => exact .wrap strip body before after otherwise dot
  | enter =>
    apply Builds.modify_bind fun _ _ _ ↦ rfl
    intro _
    apply Builds.read_bind
    intro caller
    apply Builds.modify_bind fun _ _ _ ↦ rfl
    intro _
    exact Builds.mapError (.after (.perform rfl) fun _ _ _ ↦ rfl)
  | bind _ _ ih ihf => exact .bind ih ihf
  | afterVars _ _ ih => exact .after ih fun _ _ _ ↦ rfl
  | located _ ih => exact .mapError ih

omit hc ha in
private theorem setVariable_builds (place : Nat) (v : Value) :
    (setVariable place v).Builds id count :=
  .changeAt fun _ _ _ ↦ rfl

omit hc ha in
private theorem invokeBlock_builds (handle : Nat) (dot : Value) (args : List Value) :
    (invokeBlock handle dot args).Builds id count := by
  apply Builds.read_bind
  intro found
  split
  · exact .fail _
  · next b =>
    apply Builds.bind (.hold _)
    intro list
    apply Builds.bind (setVariable_builds _ _)
    intro _
    apply Builds.bind (setVariable_builds _ _)
    intro _
    apply Builds.read_bind
    intro saved
    apply Builds.bind (.after (.perform rfl) fun _ _ _ ↦ rfl)
    intro _
    apply Builds.bind (.changeAt fun _ _ _ ↦ rfl)
    intro _
    exact setVariable_builds _ _

private theorem callWithBlock_builds (call : Command) (body : List Node) (dot : Value) :
    (callWithBlock host call body dot).Builds id count := by
  apply Builds.read_bind
  intro handle
  apply Builds.modify_bind fun _ _ _ ↦ rfl
  intro _
  exact .after ((blockCall_evalWith_made handle call).builds hc ha) fun _ _ _ ↦ rfl

/-- Every task builds for its render as it goes on. -/
theorem start_builds (task : Task) : (start host task).Builds id count := by
  cases task with
  | walk nodes | enter nodes | render nodes =>
    exact .bind ((each_made nodes).builds hc ha) fun _ ↦ .pure _
  | call f args => exact .callValue hc ha f args
  | invoke handle dot args => exact .bind (invokeBlock_builds handle dot args) fun _ ↦ .pure _
  | callback call body dot => exact callWithBlock_builds hc ha call body dot

end Walk

end TextTemplate
