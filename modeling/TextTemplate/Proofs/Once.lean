import TextTemplate.Proofs.Cache
import TextTemplate.Proofs.Child

/-!
# Functions built once

A render completes at most one build of a factory, and all its uses are of the function that was
built then (`Request.builds_once`), if no function calls by a name what the factory builds. A call
by a name does not look into what is built for the render, and builds the function anew
(`not_built_once`).

What a render has added to a count by itself is told along its run (`Run.Counts`, `Run.Comes`): what
other renders add that it begins is left out.
-/

set_option autoImplicit false

namespace TextTemplate

variable {β : Type} {host : Host} {id : Nat} {count : Value → Nat}

/-! ### What a render counts by itself -/

namespace Run

/-- The state in which a run ends or asks for a task first. -/
def state : Run Reply → State
  | .done r => r.2
  | .ask _ s _ => s

/-- Whether a run asks for another render first. -/
def atRender : Run Reply → Bool
  | .done _ => false
  | .ask task _ _ => task.isRender

/-- A run that begins with a count ends with a reply, and its render has itself added a number to
the count by then. -/
inductive Counts (host : Host) (count : Value → Nat) : Run Reply → Nat → Reply → Int → Prop where
  | done (r : Reply) (k : Nat) : Counts host count (.done r) k r (r.2.counted count - k)
  | ask {task : Task} {u : State} {next : Reply → Run Reply} {k : Nat} {r a : Reply} {m n : Int} :
      task.isRender = false → Counts host count (Walk.start host task u) (u.counted count) r m →
        Counts host count (next r) (r.2.counted count) a n →
          Counts host count (.ask task u next) k a (u.counted count - k + m + n)
  | render {task : Task} {u : State} {next : Reply → Run Reply} {k : Nat} {r a : Reply} {n : Int} :
      task.isRender = true → (Walk.start host task u).Ends host r →
        Counts host count (next r) (r.2.counted count) a n →
          Counts host count (.ask task u next) k a (u.counted count - k + n)

/-- A run that begins with a count comes to another one in the same render: it goes on so itself, or
a task that it asks for does. By the time at which that one ends or asks for a task, the render has
itself added a number to the count. -/
inductive Comes (host : Host) (count : Value → Nat) : Run Reply → Nat → Run Reply → Int → Prop where
  | here (x : Run Reply) (k : Nat) : Comes host count x k x (x.state.counted count - k)
  | within {task : Task} {u : State} {next : Reply → Run Reply} {k : Nat} {y : Run Reply}
      {n : Int} :
      task.isRender = false → Comes host count (Walk.start host task u) (u.counted count) y n →
        Comes host count (.ask task u next) k y (u.counted count - k + n)
  | after {task : Task} {u : State} {next : Reply → Run Reply} {k : Nat} {r : Reply} {y : Run Reply}
      {m n : Int} :
      task.isRender = false → Counts host count (Walk.start host task u) (u.counted count) r m →
        Comes host count (next r) (r.2.counted count) y n →
          Comes host count (.ask task u next) k y (u.counted count - k + m + n)
  | afterRender {task : Task} {u : State} {next : Reply → Run Reply} {k : Nat} {r : Reply}
      {y : Run Reply} {n : Int} :
      task.isRender = true → (Walk.start host task u).Ends host r →
        Comes host count (next r) (r.2.counted count) y n →
          Comes host count (.ask task u next) k y (u.counted count - k + n)

variable {x y z : Run Reply} {k : Nat} {a : Reply} {m n : Int} {s : State}

/-- An induction over how a run ends that has the replies of tasks for its results. -/
theorem Ends.onReplies {P : Run Reply → Reply → Prop} (done : ∀ r, P (.done r) r)
    (ask : ∀ {task u next r a}, (Walk.start host task u).Ends host r →
      P (Walk.start host task u) r → P (next r) a → P (.ask task u next) a)
    (h : x.Ends host a) : P x a := by
  have general {α : Type} {x : Run α} {a : α} (h : x.Ends host a) :
      ∀ hα : α = Reply, P (hα ▸ x) (hα ▸ a) := by
    induction h with
    | done a =>
      rintro rfl
      exact done a
    | ask hr _ ihr iha =>
      rintro rfl
      exact ask hr (ihr rfl) (iha rfl)
  exact general h rfl

private theorem Counts.ends (h : x.Counts host count k a n) : x.Ends host a := by
  induction h with
  | done r k => exact .done r
  | ask _ _ _ ihr iha => exact .ask ihr iha
  | render _ hr _ iha => exact .ask hr iha

/-- Of a run that ends it can be told what its render has added. -/
theorem Ends.exists_counts (h : x.Ends host a) (k : Nat) : ∃ n, x.Counts host count k a n := by
  refine h.onReplies (P := fun x a ↦ ∀ k, ∃ n, x.Counts host count k a n) ?_ ?_ k
  · intro r k
    exact ⟨_, .done r k⟩
  intro task u next r a hr ihr iha k
  obtain ⟨n, hn⟩ := iha (r.2.counted count)
  cases ht : task.isRender with
  | true => exact ⟨_, .render ht hr hn⟩
  | false =>
    obtain ⟨m, hm⟩ := ihr (u.counted count)
    exact ⟨_, .ask ht hm hn⟩

/-- A run comes to its end. -/
theorem Counts.comes (h : x.Counts host count k a n) : x.Comes host count k (.done a) n := by
  induction h with
  | done r k => exact .here _ k
  | ask ht hr _ _ iha => exact .after ht hr iha
  | render ht hr _ iha => exact .afterRender ht hr iha

/-! ### What has been built on the way -/

section

variable (hc : host.Counts id count) (ha : host.Avoids id)
include hc ha

/-- A run that ends has built for its render what the render has counted. -/
theorem Counts.keeps (h : x.Counts host count k a n) (hx : x.Builds id count s)
    (hk : s.counted count = k) : s.Keeps id n a.2 := by
  induction h generalizing s with
  | done r k =>
    subst hk
    cases hx with
    | done h => exact h
  | ask ht _ _ ihr iha =>
    subst hk
    obtain ⟨hu, hn⟩ := hx.asked ht
    exact (hu.keeps.trans (ihr (Walk.start_builds hc ha _ _) rfl)).trans (iha (hn _) rfl)
  | render ht _ _ iha =>
    subst hk
    obtain ⟨t, hs, -, hcount, hn⟩ := hx.asked_render ht
    rw [hcount]
    exact hs.keeps.trans (iha (hn _) rfl).of_resources

private theorem Ends.keeps (h : x.Ends host a) (hx : x.Builds id count s) :
    ∃ n, s.Keeps id n a.2 := by
  obtain ⟨n, hn⟩ := h.exists_counts (s.counted count)
  exact ⟨n, hn.keeps hc ha hx rfl⟩

/-- Where a run of a render comes to, the render has built what it has counted. Another render that
begins there has nothing built for it. -/
theorem Comes.keeps (h : x.Comes host count k y n) (hx : x.Builds id count s)
    (hk : s.counted count = k) :
    ∃ t, s.Keeps id n t ∧ (y.atRender = false → y.state = t) ∧
      (y.atRender = true → y.state.built = []) := by
  induction h generalizing s with
  | here x k =>
    subst hk
    cases hx with
    | done h => exact ⟨_, h, fun _ ↦ rfl, fun hr ↦ nomatch hr⟩
    | ask ht h hn => exact ⟨_, h, fun _ ↦ rfl, fun hr ↦ by simp [atRender, ht] at hr⟩
    | render ht h hb hcount hn =>
      rw [state, hcount]
      exact ⟨_, h, fun hr ↦ by simp [atRender, ht] at hr, fun _ ↦ hb⟩
  | within ht _ ih =>
    subst hk
    obtain ⟨hu, -⟩ := hx.asked ht
    obtain ⟨t, hut, ht⟩ := ih (Walk.start_builds hc ha _ _) rfl
    exact ⟨t, hu.keeps.trans hut, ht⟩
  | after ht hr _ ih =>
    subst hk
    obtain ⟨hu, hn⟩ := hx.asked ht
    have hur := hu.keeps.trans (hr.keeps hc ha (Walk.start_builds hc ha _ _) rfl)
    obtain ⟨t, hrt, ht⟩ := ih (hn _) rfl
    exact ⟨t, hur.trans hrt, ht⟩
  | afterRender ht _ _ ih =>
    subst hk
    obtain ⟨t, hs, -, hcount, hn⟩ := hx.asked_render ht
    obtain ⟨v, htv, hv⟩ := ih (hn _) rfl
    rw [hcount]
    exact ⟨v, hs.keeps.trans htv.of_resources, hv⟩

private theorem Comes.keeps_own (h : x.Comes host count k y n) (hx : x.Builds id count s)
    (hk : s.counted count = k) (hy : y.atRender = false) : s.Keeps id n y.state := by
  obtain ⟨t, hst, ht, -⟩ := h.keeps hc ha hx hk
  exact ht hy ▸ hst

/-! ### The order of what has been built -/

/-- What a render keeps somewhere on the way, it keeps at the end. -/
theorem Comes.kept_at_end (hy : x.Comes host count k y m) (hb : x.Builds id count s)
    (hx : x.Ends host a) (own : y.atRender = false) : y.state.built <:+ a.2.built := by
  induction hy generalizing s a with
  | here x k =>
    cases hx with
    | done => exact List.suffix_refl _
    | ask hr hn =>
      obtain ⟨-, hnext⟩ := hb.asked own
      obtain ⟨_, hsub⟩ := hr.keeps hc ha (Walk.start_builds hc ha _ _)
      obtain ⟨_, hend⟩ := hn.keeps hc ha (hnext _)
      exact hsub.kept.trans hend.kept
  | within ht _ ih =>
    cases hx with
    | ask hr hn =>
      obtain ⟨-, hnext⟩ := hb.asked ht
      obtain ⟨_, hend⟩ := hn.keeps hc ha (hnext _)
      exact (ih (Walk.start_builds hc ha _ _) hr own).trans hend.kept
  | after ht hr _ ih =>
    cases hx with
    | ask hr' hn =>
      cases hr.ends.unique hr'
      exact ih ((hb.asked ht).2 _) hn own
  | afterRender ht hr _ ih =>
    cases hx with
    | ask hr' hn =>
      cases hr.unique hr'
      obtain ⟨_, -, -, -, hnext⟩ := hb.asked_render ht
      exact ih (hnext _) hn own

/-- What a render keeps at the start it keeps everywhere on the way. -/
theorem Comes.kept_from_start (hz : x.Comes host count k z n) (hb : x.Builds id count s)
    (ownx : x.atRender = false) (own : z.atRender = false) : x.state.built <:+ z.state.built := by
  cases hz with
  | here => exact List.suffix_refl _
  | within _ hz => exact (hz.keeps_own hc ha (Walk.start_builds hc ha _ _) rfl own).kept
  | after ht hr hz =>
    exact ((hr.keeps hc ha (Walk.start_builds hc ha _ _) rfl).trans
      (hz.keeps_own hc ha ((hb.asked ht).2 _) rfl own)).kept
  | afterRender ht => exact (Bool.false_ne_true (ownx.symm.trans ht)).elim

/-- What a render keeps in the course of a task, it keeps everywhere after the task. -/
theorem Comes.kept_after_task {task : Task} {u : State} {r : Reply}
    (hy : (Walk.start host task u).Comes host count k y m)
    (hr : (Walk.start host task u).Ends host r)
    (hz : x.Comes host count (r.2.counted count) z n) (hx : x.Builds id count r.2)
    (owny : y.atRender = false) (ownz : z.atRender = false) : y.state.built <:+ z.state.built := by
  have hend := hy.kept_at_end hc ha (Walk.start_builds hc ha task u) hr owny
  exact hend.trans (hz.keeps_own hc ha hx rfl ownz).kept

/-- Of two places to which a run comes, a render keeps at one what it keeps at the other. -/
theorem Comes.kept_or (hy : x.Comes host count k y m) (hz : x.Comes host count k z n)
    (hb : x.Builds id count s) (owny : y.atRender = false) (ownz : z.atRender = false) :
    y.state.built <:+ z.state.built ∨ z.state.built <:+ y.state.built := by
  -- along the way to one of the places, until the way to the other one parts from it: at the run
  -- itself, or at a task that ends on the one way and that the other place is in the course of
  induction hy generalizing n s with
  | here x k => exact .inl (hz.kept_from_start hc ha hb owny ownz)
  | within ht hy ih =>
    cases hz with
    | here => exact .inr (kept_from_start hc ha (.within (k := 0) ht hy) hb ownz owny)
    | within _ hz => exact ih hz (Walk.start_builds hc ha _ _) owny
    | after _ hr hz =>
      exact .inl (hy.kept_after_task hc ha hr.ends hz ((hb.asked ht).2 _) owny ownz)
    | afterRender hr => exact (Bool.false_ne_true (ht.symm.trans hr)).elim
  | after ht hr hy ih =>
    cases hz with
    | here => exact .inr (kept_from_start hc ha (.after (k := 0) ht hr hy) hb ownz owny)
    | within _ hz =>
      exact .inr (hz.kept_after_task hc ha hr.ends hy ((hb.asked ht).2 _) ownz owny)
    | after _ hr' hz =>
      cases hr.ends.unique hr'.ends
      exact ih hz ((hb.asked ht).2 _) owny
    | afterRender hr => exact (Bool.false_ne_true (ht.symm.trans hr)).elim
  | afterRender ht hr hy ih =>
    cases hz with
    | here => exact (Bool.false_ne_true (ownz.symm.trans ht)).elim
    | within hr | after hr => exact (Bool.false_ne_true (hr.symm.trans ht)).elim
    | afterRender _ hr' hz =>
      cases hr.unique hr'
      obtain ⟨_, -, -, -, hnext⟩ := hb.asked_render ht
      exact ih hz (hnext _) owny

end

/-! ### Moments of a render -/

/-- What a task comes to, a run comes to that asks for the task. -/
theorem Comes.extend {task : Task} {u : State} {next : Reply → Run Reply}
    (h : x.Comes host count k (.ask task u next) m) (ht : task.isRender = false)
    (hy : (Walk.start host task u).Comes host count (u.counted count) y n) :
    x.Comes host count k y (m + n) := by
  generalize hz : Run.ask task u next = z at h
  induction h with
  | here x k =>
    subst hz
    exact .within ht hy
  | within ht' _ ih =>
    rw [Int.add_assoc]
    exact .within ht' (ih hz)
  | after ht' hr _ ih =>
    rw [Int.add_assoc]
    exact .after ht' hr (ih hz)
  | afterRender ht' hr _ ih =>
    rw [Int.add_assoc]
    exact .afterRender ht' hr (ih hz)

private theorem Asks.exists_comes {task : Task} {u : State} (h : x.Asks host task u) (k : Nat) :
    ∃ next n, x.Comes host count k (.ask task u next) n := by
  induction x generalizing k with
  | done r => cases h
  | ask t s next ih =>
    cases h with
    | now => exact ⟨_, _, .here _ k⟩
    | @later _ _ _ _ _ r hr h =>
      obtain ⟨next', n, hn⟩ := ih r h (r.2.counted count)
      cases ht : t.isRender with
      | true => exact ⟨next', _, .afterRender ht hr hn⟩
      | false =>
        obtain ⟨m, hm⟩ := hr.exists_counts (s.counted count)
        exact ⟨next', _, .after ht hm hn⟩

end Run

/-- A render comes to all of its moments. -/
theorem Moment.exists_comes {start q : Request} {above : List Request}
    (h : Moment host start (q :: above ++ [start])) (hr : ∀ p ∈ above, p.1.isRender = false) :
    ∃ next n, (Walk.start host start.1 start.2).Comes host count (start.2.counted count)
      (.ask q.1 q.2 next) n := by
  induction above generalizing q with
  | nil => exact h.asked.exists_comes _
  | cons p above ih =>
    rw [List.forall_mem_cons] at hr
    obtain ⟨next, m, hm⟩ := ih h.outer hr.2
    obtain ⟨next', n, hn⟩ := h.asked.exists_comes (p.2.counted count)
    exact ⟨next', _, hm.extend hr.1 hn⟩

/-! ### Uses of what has been built -/

namespace Walk

variable {s t u : State} {n : Nat} {f : Function}

private theorem resolve_of_lookup (h : s.built.lookup n = some f) :
    resolve host (.contextBound n) s = .done (.ok f, s) := by
  rw [resolve, read_bind, h]
  rfl

/-- A function that a render uses it keeps. -/
theorem lookup_of_resolve (h : resolve host (.contextBound n) s = .done (.ok f, t)) :
    t.built.lookup n = some f := by
  rw [resolve, read_bind] at h
  cases hf : s.built.lookup n with
  | some g =>
    rw [hf] at h
    cases h
    exact hf
  | none =>
    rw [hf] at h
    dsimp only at h
    rw [read_bind, bind_run, plain, ended] at h
    generalize (host.build n s.context).run host s.resources = x at h
    obtain ⟨o, r⟩ := x
    cases o with
    | ok g =>
      cases h
      exact List.lookup_cons_self
    | error e => cases h
    | panic message => cases h

section

variable (hc : host.Counts id count) (ha : host.Avoids id)
include hc ha

/-- A run that ends keeps what has been built for its render. -/
theorem keeps_of_ends {x : Run (Outcome β × State)} {o : Outcome β} (h : x.Builds id count s)
    (hx : x.Ends host (o, u)) : ∃ n, s.Keeps id n u := by
  induction h with
  | done h =>
    cases hx
    exact ⟨_, h⟩
  | ask ht hu hn ih =>
    cases hx with
    | ask hr hx =>
      obtain ⟨_, hsub⟩ := hr.keeps hc ha (start_builds hc ha _ _)
      obtain ⟨_, hend⟩ := ih _ hx
      exact ⟨_, (hu.keeps.trans hsub).trans hend⟩
  | render ht hs hb hk hn ih =>
    cases hx with
    | ask hr hx =>
      obtain ⟨_, hend⟩ := ih _ hx
      exact ⟨_, hs.keeps.trans hend.of_resources⟩

end

end Walk

/-! ### Renders -/

/-- What the render of a request comes to, and what it has itself added to the count by then. -/
def Request.Comes (host : Host) (count : Value → Nat) (q : Request) (y : Run Reply) (n : Int) :
    Prop :=
  (Walk.start host q.1 q.2).Comes host count (q.2.counted count) y n

/-- The render of a request builds the function of a factory once at most, and uses no other one. -/
structure Request.BuildsOnce (host : Host) (id : Nat) (count : Value → Nat) (q : Request) :
    Prop where
  /-- The render comes to its end, if it ends. -/
  ends : ∀ r, (Walk.start host q.1 q.2).Ends host r → ∃ n, q.Comes host count (.done r) n
  /-- It comes to each of its moments. -/
  moments : ∀ p above, Moment host q (p :: above ++ [q]) → (∀ o ∈ above, o.1.isRender = false) →
    ∃ next n, q.Comes host count (.ask p.1 p.2 next) n
  /-- Wherever it comes to, it has completed one build of the factory or none. -/
  once : ∀ y n, q.Comes host count y n → n = 0 ∨ n = 1
  /-- It has completed one if it keeps a function of the factory. -/
  kept : ∀ y n, q.Comes host count y n → y.atRender = false →
    y.state.factories.Nodup ∧ n = if (y.state.built.lookup id).isSome then 1 else 0
  /-- Wherever it keeps a function of the factory, it keeps the same one. -/
  same : ∀ y z m n f g, q.Comes host count y m → q.Comes host count z n → y.atRender = false →
    z.atRender = false → y.state.built.lookup id = some f → z.state.built.lookup id = some g → f = g
  /-- A function of the factory that it uses it keeps, and uses again after whatever it does. -/
  uses : ∀ s t f, s.factories.Nodup → Walk.resolve host (.contextBound id) s = .done (.ok f, t) →
    t.built.lookup id = some f ∧ ∀ {β : Type} (m : Walk β) o u, Walk.Made host m →
      (m t).Ends host (o, u) → Walk.resolve host (.contextBound id) u = .done (.ok f, u)
  /-- Another render that it begins has nothing built for it. -/
  nested : ∀ y n, q.Comes host count y n → y.atRender = true → y.state.built = []

/-- A render for which nothing is built yet builds the function of a factory once at most, whatever
it renders, if no function calls by a name what the factory builds. -/
theorem Request.builds_once (hc : host.Counts id count) (ha : host.Avoids id) {q : Request}
    (hq : q.2.built = []) : q.BuildsOnce host id count where
  ends r hr := by
    obtain ⟨n, hn⟩ := hr.exists_counts (q.2.counted count)
    exact ⟨n, hn.comes⟩
  moments p above hm hr := hm.exists_comes hr
  once y n hy := by
    obtain ⟨t, ht, -⟩ := hy.keeps hc ha (Walk.start_builds hc ha _ _) rfl
    obtain ⟨-, hn⟩ := ht.of_nil hq
    rw [hn]
    split
    · exact .inr rfl
    · exact .inl rfl
  kept y n hy own := (hy.keeps_own hc ha (Walk.start_builds hc ha _ _) rfl own).of_nil hq
  same y z m n f g hy hz owny ownz hf hg := by
    have hb := Walk.start_builds hc ha q.1 q.2
    obtain ⟨hynodup, -⟩ := (hy.keeps_own hc ha hb rfl owny).of_nil hq
    obtain ⟨hznodup, -⟩ := (hz.keeps_own hc ha hb rfl ownz).of_nil hq
    rcases hy.kept_or hc ha hz hb owny ownz with h | h
    · exact Option.some.inj ((State.lookup_of_suffix h hznodup hf).symm.trans hg)
    · exact Option.some.inj (hf.symm.trans (State.lookup_of_suffix h hynodup hg))
  uses s t f hs hf := by
    have hkept := Walk.lookup_of_resolve hf
    refine ⟨hkept, ?_⟩
    intro β m o u hm hu
    have hst := Walk.Builds.resolve hc ha (.contextBound id) s
    rw [hf] at hst
    obtain ⟨_, ht⟩ := Walk.keeps_of_ends hc ha hst (.done _)
    obtain ⟨_, hu⟩ := Walk.keeps_of_ends hc ha (hm.builds hc ha t) hu
    exact Walk.resolve_of_lookup (hu.lookup (ht.nodup hs) hkept)
  nested y n hy hr := by
    obtain ⟨t, -, -, hb⟩ := hy.keeps hc ha (Walk.start_builds hc ha _ _) rfl
    exact hb hr

/-- How long a text is. -/
private def marks : Value → Nat
  | .text s => s.length
  | _ => 0

/-- Makes a text longer by one mark. -/
private def mark : Value → Value
  | .text s => .text (s.push '1')
  | _ => .text "1"

/-- A host with a factory that marks each build, and builds a function that gives the number of the
marks. -/
private def marking : Host where
  plain _ _ args := .done (.single (args.headD .invalid))
  stateful _ _ _ := .fail .needsRender
  build
    | 0, _ =>
      let function (v : Value) : Function :=
        .mk ⟨.exactly 0, .single⟩ false (.host 0) [.ofNat (marks v + 1)] none none
      (Plain.host (fun v ↦ v) fun v ↦ .done (function v)).thenUpdate mark
    | _, _ => .fail .needsRender

/-- The host, with a function that calls the one of the factory by its name. -/
private def calling : Host :=
  { marking with
    stateful := fun _ _ _ ↦ .view fun v ↦
      .run (.callNamed v.context "f" [] .ofExcept) (.orFail fun v ↦ .done (.single v)) }

private theorem marks_mark (v : Value) : marks (mark v) = marks v + 1 := by
  unfold mark
  split
  · exact String.length_push _
  · next h =>
    cases v with
    | text s => exact (h s rfl).elim
    | _ => rfl

private theorem marking_counts : marking.Counts 0 marks where
  functions := ⟨fun _ _ _ ↦ trivial, fun _ _ _ ↦ trivial, fun _ _ ↦ trivial⟩
  others n context hn := by
    cases n with
    | zero => exact (hn rfl).elim
    | succ n => trivial
  build context := ⟨_, mark, rfl, ⟨fun _ ↦ rfl, fun _ ↦ trivial⟩, marks_mark⟩

private theorem marking_avoids : marking.Avoids 0 where
  functions := ⟨fun _ _ _ ↦ trivial, fun _ _ _ ↦ trivial, fun _ _ ↦ trivial⟩
  builds n context := by
    cases n with
    | zero => exact ⟨trivial, fun _ ↦ ⟨trivial, fun _ ↦ trivial⟩⟩
    | succ n => trivial

/-- A template that uses functions of some names. -/
private def usesTree (names : List String) : Tree :=
  .ofNodes "t" (names.map fun name ↦ .action ⟨0, 0⟩ (.ofForms [[.identifier name]]))

/-- The executor of the template, with the function of the factory and one that calls it. -/
private def usesExecutor (names : List String) : Executor :=
  (Executor.root (.empty "t") ⟨"t", some (usesTree names), .empty⟩ 0).withScope
    ⟨[[("f", .contextBound 0),
      ("g", .direct (.mk ⟨.exactly 0, .single⟩ true (.host 0) [] none none))]]⟩ 1

/-- The request of the render of the template. -/
private def usesRequest (names : List String) : Request :=
  (usesExecutor names).request (usesTree names) .invalid .unlimited (.ofStores 2)

/-- A factory's function that a template uses twice is built once. -/
theorem Request.builds_once_twice :
    (usesRequest ["f", "f"]).2.built = [] ∧
      (usesRequest ["f", "f"]).BuildsOnce marking 0 marks ∧
      ((usesExecutor ["f", "f"]).execute marking 4 .invalid [] .unlimited (.ofStores 2)).map
        (fun x ↦ (x.result, marks x.resources.hostState)) = some ((.ok, "11".toUTF8), 1) :=
  ⟨rfl, Request.builds_once marking_counts marking_avoids rfl, by decide +kernel⟩

/-- A factory's function that another one calls by its name is built again for the call. -/
theorem not_built_once :
    calling.Counts 0 marks ∧
      ((usesExecutor ["f", "g", "f"]).execute calling 4 .invalid [] .unlimited (.ofStores 2)).map
        (fun x ↦ (x.result, marks x.resources.hostState)) = some ((.ok, "121".toUTF8), 2) ∧
      ¬ (usesRequest ["f", "g", "f"]).BuildsOnce calling 0 marks := by
  have hcounts : calling.Counts 0 marks :=
    { marking_counts with
      functions := ⟨fun _ _ _ ↦ trivial, fun _ _ _ _ ↦
        ⟨⟨trivial, fun _ ↦ Plain.only_ofExcept _⟩, Program.orFail_only fun _ ↦ trivial⟩,
        fun _ _ ↦ trivial⟩ }
  refine ⟨hcounts, by decide +kernel, ?_⟩
  intro h
  exact absurd (h.once _ _ (.here _ _)) (by decide +kernel)

end TextTemplate
