import TextTemplate.Proofs.Ending
import TextTemplate.Proofs.Tasks

/-!
# Isolation of template calls

A called template begins with the variables that it inherits, the new dot and its arguments. What
it makes of them does not reach its caller, which goes on with the variables that it had when its
operands were evaluated.
-/

set_option autoImplicit false

namespace TextTemplate

variable {host : Host} {dot : Value} {pipe : Option Pipe} {s : State}

/-! ### The operands of a call -/

/-- The operands that become arguments: those after the first one of a single command. -/
def argumentOperands (pipe : Option Pipe) : List Operand :=
  match pipe.map Pipe.commands with
  | some [.mk _ (_ :: rest)] => rest
  | _ => []

/-- Operands evaluate to values one after the other, against one dot. -/
inductive Evaluated (host : Host) (dot : Value) :
    List Operand → State → List Value → State → Prop where
  | nil {s : State} : Evaluated host dot [] s [] s
  | cons {o : Operand} {rest : List Operand} {v : Value} {vs : List Value} {s t u : State} :
      (o.argument host dot s).Ends host (.ok v, t) → Evaluated host dot rest t vs u →
        Evaluated host dot (o :: rest) s (v :: vs) u

/-- The pipeline of a call gives the new dot and the arguments, all against the dot of the caller.
The declarations are those of the new dot. -/
inductive CallEvaluated (host : Host) (dot : Value) :
    Option Pipe → State → Value → List Value → State → Prop where
  | none {s : State} : CallEvaluated host dot none s dot [] s
  | single {p : Pipe} {span : Span} {first : Operand} {rest : List Operand} {newDot : Value}
      {args : List Value} {s t t' u : State} :
      p.commands = [.mk span (first :: rest)] →
        (first.argument host dot s).Ends host (.ok newDot, t) →
        (Walk.declareAll newDot p.declarations t).Ends host (.ok (), t') →
        Evaluated host dot rest t' args u →
          CallEvaluated host dot (some p) s newDot args u
  | piped {p : Pipe} {newDot : Value} {s u : State} :
      (∀ span first rest, p.commands ≠ [.mk span (first :: rest)]) →
        (p.eval host dot s).Ends host (.ok newDot, u) →
          CallEvaluated host dot (some p) s newDot [] u

/-- Operands have one value each. -/
theorem Evaluated.length_eq {operands : List Operand} {vs : List Value} {u : State}
    (h : Evaluated host dot operands s vs u) : vs.length = operands.length := by
  induction h with
  | nil => rfl
  | cons _ _ ih => rw [List.length_cons, List.length_cons, ih]

namespace Walk

/-- The values of operands are had just if they are evaluated one after the other. -/
theorem values_ends_iff {operands : List Operand} {vs : List Value} {u : State} :
    (values (Operand.arguments host dot operands) s).Ends host (.ok vs, u) ↔
      Evaluated host dot operands s vs u := by
  constructor
  · intro h
    induction operands generalizing s vs with
    | nil =>
      cases h
      exact .nil
    | cons o rest ih =>
      obtain ⟨v, t, hv, h⟩ := of_bind_ends_ok h
      obtain ⟨more, w, hm, hd⟩ := of_bind_ends_ok h
      cases hd
      exact .cons hv (ih hm)
  · intro h
    induction h with
    | nil => exact .done _
    | cons hv _ ih => exact bind_ends hv (bind_ends ih (.done _))

section

variable {p : Pipe}

private theorem callArguments_single {span : Span} {first : Operand} {rest : List Operand}
    (hp : p.commands = [.mk span (first :: rest)]) :
    callArguments host (some p) dot = do
      let newDot ← first.argument host dot
      declareAll newDot p.declarations
      return (newDot, ← values (Operand.arguments host dot rest)) := by
  simp only [callArguments, hp]

private theorem callArguments_piped
    (hp : ∀ span first rest, p.commands ≠ [.mk span (first :: rest)]) :
    callArguments host (some p) dot = do return (← p.eval host dot, []) := by
  simp only [callArguments]

end

/-- The operands are evaluated as the relation says. -/
theorem callArguments_ends_iff {newDot : Value} {args : List Value} {u : State} :
    (callArguments host pipe dot s).Ends host (.ok (newDot, args), u) ↔
      CallEvaluated host dot pipe s newDot args u := by
  constructor
  · intro h
    cases pipe with
    | none =>
      cases h
      exact .none
    | some p =>
      by_cases hp : ∃ span first rest, p.commands = [.mk span (first :: rest)]
      · obtain ⟨span, first, rest, hp⟩ := hp
        rw [callArguments_single hp] at h
        obtain ⟨v, t, hv, h⟩ := of_bind_ends_ok h
        obtain ⟨_, t', hd, h⟩ := of_bind_ends_ok h
        obtain ⟨vs, w, hvs, hr⟩ := of_bind_ends_ok h
        cases hr
        exact .single hp hv hd (values_ends_iff.mp hvs)
      · have hp : ∀ span first rest, p.commands ≠ [.mk span (first :: rest)] := by
          intro span first rest hc
          exact hp ⟨span, first, rest, hc⟩
        rw [callArguments_piped hp] at h
        obtain ⟨v, t, hv, hr⟩ := of_bind_ends_ok h
        cases hr
        exact .piped hp hv
  · intro h
    cases h with
    | none => exact .done _
    | single hp hv hd hvs =>
      rw [callArguments_single hp]
      exact bind_ends hv (bind_ends hd (bind_ends (values_ends_iff.mpr hvs) (.done _)))
    | piped hp hv =>
      rw [callArguments_piped hp]
      exact bind_ends hv (.done _)

end Walk

private theorem CallEvaluated.length_eq {newDot : Value} {args : List Value} {u : State}
    (h : CallEvaluated host dot pipe s newDot args u) :
    args.length = (argumentOperands pipe).length := by
  cases h with
  | none => rfl
  | single hp _ _ hvs =>
    simp only [argumentOperands, Option.map_some, hp]
    exact hvs.length_eq
  | @piped p _ _ _ hp _ =>
    simp only [argumentOperands, Option.map_some]
    split
    · next span first rest hc => exact absurd (Option.some.inj hc) (hp span first rest)
    · rfl

/-! ### The run of a call -/

namespace Walk

variable {span : Span} {name : String} {template : Template} {tree : Tree}

/-- A call of a template that is there evaluates its operands, compares their number with that of
the declared arguments, and enters the template. -/
theorem callTemplate_run (hc : s.callee name = .ok template) (ht : template.tree = some tree) :
    callTemplate host span name pipe dot s = (callArguments host pipe dot >>= fun x ↦
      if x.2.length = tree.args.length then
        enterTemplate span (.template span name pipe) name template tree x.1 x.2
      else fail (.of (.badTemplateArgs name tree.args.length x.2.length))) s := by
  have hr : ∀ k : Template → Walk Unit, (ofExcept (.ok template) >>= k) s = k template s :=
    fun _ ↦ rfl
  rw [callTemplate, read_bind, hc, hr, ht]
  refine congrFun (congrArg (callArguments host pipe dot >>= ·) (funext ?_)) s
  rintro ⟨newDot, args⟩
  dsimp only
  by_cases hn : args.length = tree.args.length
  · rw [if_pos hn, if_neg (not_not_intro hn)]
  · rw [if_neg hn, if_pos hn]
    rfl

/-- A template is entered once, with its own variables. -/
theorem enterTemplate_asks_iff {node : Node} {newDot : Value} {args : List Value} {task : Task}
    {u : State} :
    (enterTemplate span node name template tree newDot args s).Asks host task u ↔
      task = .enter tree.root newDot ∧
        u = calleeState template tree newDot args { s with place := some (span, .node node) } := by
  rw [enterTemplate, setPlace, modify_bind, read_bind, modify_bind]
  constructor
  · intro h
    exact asks_perform_iff.mp (of_asks_after (of_asks_mapError h))
  · rintro ⟨rfl, rfl⟩
    exact .now

/-- A template that was entered leaves the variables of its caller as they were. -/
theorem vars_of_enterTemplate_ends {node : Node} {newDot : Value} {args : List Value}
    {o : Outcome Unit} {u : State}
    (h : (enterTemplate span node name template tree newDot args s).Ends host (o, u))
    (ho : o.Returned) : u.vars = s.vars := by
  rw [enterTemplate, setPlace, modify_bind, read_bind, modify_bind] at h
  obtain ⟨o', h, ho'⟩ := of_mapError_ends h
  obtain ⟨v, -, rfl⟩ := of_after_ends h (ho' ho)
  rfl

/-- The operands of a call enter no template. -/
theorem callArguments_not_asks_enter {body : List Node} {newDot : Value} {u : State} :
    ¬ (callArguments host pipe dot s).Asks host (.enter body newDot) u := by
  intro h
  have hr := ((callArguments_calm pipe) s s (.refl s)).asked start_meets h
  cases hr

/-- What a call with the right number of arguments asks for after its operands are evaluated. -/
theorem asks_enter_iff (hc : s.callee name = .ok template) (ht : template.tree = some tree)
    {body : List Node} {newDot : Value} {v : State} :
    (callTemplate host span name pipe dot s).Asks host (.enter body newDot) v ↔
      ∃ args u, CallEvaluated host dot pipe s newDot args u ∧ args.length = tree.args.length ∧
        body = tree.root ∧ v = calleeState template tree newDot args
          { u with place := some (span, .node (.template span name pipe)) } := by
  rw [callTemplate_run hc ht]
  constructor
  · intro h
    obtain h | ⟨⟨d, args⟩, u, hu, h⟩ := of_asks_bind h
    · exact absurd h callArguments_not_asks_enter
    · dsimp only at h
      split at h
      · next hl =>
        obtain ⟨he, rfl⟩ := enterTemplate_asks_iff.mp h
        cases he
        exact ⟨args, u, callArguments_ends_iff.mp hu, hl, rfl, rfl⟩
      · cases h
  · rintro ⟨args, u, hu, hl, rfl, rfl⟩
    refine asks_bind_ends (callArguments_ends_iff.mpr hu) ?_
    dsimp only
    rw [if_pos hl]
    exact enterTemplate_asks_iff.mpr ⟨rfl, rfl⟩

/-- A call with a wrong number of arguments fails once its operands are evaluated. -/
theorem callTemplate_ends_of_ne (hc : s.callee name = .ok template) (ht : template.tree = some tree)
    (hl : (argumentOperands pipe).length ≠ tree.args.length) {newDot : Value} {args : List Value}
    {u : State} (hu : CallEvaluated host dot pipe s newDot args u) :
    (callTemplate host span name pipe dot s).Ends host
      (.error (.of (.badTemplateArgs name tree.args.length args.length)), u) := by
  rw [callTemplate_run hc ht]
  refine bind_ends (callArguments_ends_iff.mpr hu) ?_
  dsimp only
  rw [if_neg (hu.length_eq ▸ hl)]
  exact .done _

/-- A call that returns has evaluated its operands, and had the right number of arguments. -/
theorem length_eq_of_callTemplate_ends (hc : s.callee name = .ok template)
    (ht : template.tree = some tree) {u : State}
    (h : (callTemplate host span name pipe dot s).Ends host (.ok (), u)) :
    (argumentOperands pipe).length = tree.args.length := by
  rw [callTemplate_run hc ht] at h
  obtain ⟨⟨newDot, args⟩, v, hv, h⟩ := of_bind_ends_ok h
  rw [← (callArguments_ends_iff.mp hv).length_eq]
  dsimp only at h
  split at h
  · next hl => exact hl
  · cases h

/-- A call with the right number of arguments ends with the variables that it had when its operands
were evaluated. -/
theorem vars_of_callTemplate_ends (hc : s.callee name = .ok template)
    (ht : template.tree = some tree) (hl : (argumentOperands pipe).length = tree.args.length)
    {newDot : Value} {args : List Value} {u w : State} {o : Outcome Unit}
    (hu : CallEvaluated host dot pipe s newDot args u)
    (h : (callTemplate host span name pipe dot s).Ends host (o, w)) (ho : o.Returned) :
    w.vars = u.vars := by
  have hargs := callArguments_ends_iff.mpr hu
  rw [callTemplate_run hc ht] at h
  obtain ⟨e, -, he⟩ | ⟨given, v, hv, h⟩ := of_bind_ends h ho
  · cases he.unique hargs
  · cases hv.unique hargs
    dsimp only at h
    rw [if_pos (hu.length_eq.trans hl)] at h
    exact vars_of_enterTemplate_ends h ho

end Walk

/-- The variables that the body of a called template begins with: as many of the caller's as it
inherits, the new dot, and the declared arguments in order. -/
def bodyVariables (tree : Tree) (caller : Bindings) (newDot : Value) (args : List Value) :
    Bindings :=
  caller.take (min tree.inherited caller.length) ++ ("$", newDot) :: tree.args.zip args

private theorem Walk.calleeVariables_eq (tree : Tree) (caller : Bindings) (newDot : Value)
    (args : List Value) :
    calleeVariables tree caller newDot args = bodyVariables tree caller newDot args := by
  rw [calleeVariables, bodyVariables, List.append_assoc, ← List.take_eq_take_min]
  rfl

/-- A call of a template with a wrong number of arguments fails before the body is walked, and all
others walk it with the variables that it inherits, the new dot and its arguments; when the call
returns, the caller has the variables again that it had when the operands were evaluated. -/
theorem template_isolated {span : Span} {name : String} {template : Template} {tree : Tree}
    (hc : s.callee name = .ok template) (ht : template.tree = some tree) :
    let call := Walk.node host dot (.template span name pipe) s
    ((argumentOperands pipe).length ≠ tree.args.length →
      (∀ newDot args u, CallEvaluated host dot pipe s newDot args u →
        call.Ends host
          (.error (.of (.badTemplateArgs name tree.args.length args.length)), u)) ∧
      (∀ a u, ¬ call.Ends host (.ok a, u)) ∧
      ∀ body newDot v, ¬ call.Asks host (.enter body newDot) v) ∧
    ((argumentOperands pipe).length = tree.args.length →
      ∀ newDot args u, CallEvaluated host dot pipe s newDot args u →
        (∃ v, call.Asks host (.enter tree.root newDot) v) ∧
        (∀ body d v, call.Asks host (.enter body d) v →
          body = tree.root ∧ d = newDot ∧ v.vars = bodyVariables tree u.vars newDot args) ∧
        ∀ o w, call.Ends host (o, w) → o.Returned → w.vars = u.vars) := by
  intro call
  have asked {body : List Node} {d : Value} {v : State} :=
    @Walk.asks_enter_iff host dot pipe s span name template tree hc ht body d v
  constructor
  · intro hl
    refine ⟨fun newDot args u hu ↦ Walk.callTemplate_ends_of_ne hc ht hl hu, ?_, ?_⟩
    · intro a u h
      exact hl (Walk.length_eq_of_callTemplate_ends hc ht h)
    · intro body newDot v h
      obtain ⟨args, u, hu, hn, -⟩ := asked.mp h
      exact hl (hu.length_eq ▸ hn)
  · intro hl newDot args u hu
    refine ⟨?_, ?_, fun o w h ho ↦ Walk.vars_of_callTemplate_ends hc ht hl hu h ho⟩
    · exact ⟨_, asked.mpr ⟨args, u, hu, hu.length_eq.trans hl, rfl, rfl⟩⟩
    · intro body d v h
      obtain ⟨args', u', hu', -, rfl, rfl⟩ := asked.mp h
      cases (Walk.callArguments_ends_iff.mpr hu').unique (Walk.callArguments_ends_iff.mpr hu)
      exact ⟨rfl, rfl, Walk.calleeVariables_eq ..⟩

/-! ### A call whose body assigns a variable of its caller -/

/-- A template with an argument that it prints, and with an assignment to a variable that it
inherits. -/
def assigningTree : Tree where
  name := "u"
  sourceName := "u"
  root := [
    .action ⟨0, 0⟩ (.mk ⟨0, 0⟩ [⟨⟨0, 0⟩, "$p", .update, false⟩]
      [.mk ⟨0, 0⟩ [.mk ⟨0, 0⟩ (.text "q")]] false),
    .action ⟨0, 0⟩ (.ofForms [[.variable "$a" []]])]
  args := ["$a"]
  inherited := 2
  source := ""

/-- A caller of the template with a variable. -/
def assigningCaller : State :=
  let set := ((TemplateSet.empty "t").add assigningTree).2
  { State.initial (.root set (.declared "t") 0) .invalid .unlimited (.initial .nil) with
    vars := [("$", .invalid), ("$p", .text "p")] }

/-- The pipeline of a call with a dot and one argument. -/
def oneArgument : Option Pipe := some (.ofForms [[.text "d", .text "x"]])

private theorem oneArgument_evaluated : ∃ u,
    CallEvaluated .empty .invalid oneArgument assigningCaller (.text "d") [.text "x"] u ∧
      u.vars = assigningCaller.vars :=
  ⟨_, .single rfl (.done _) (.done _) (.cons (.done _) .nil), rfl⟩

private theorem oneArgument_ends : ∃ w,
    (Walk.node .empty .invalid (.template ⟨0, 0⟩ "u" oneArgument) assigningCaller).Ends .empty
      (.ok (), w) ∧ w.writer.written = "x".toUTF8 :=
  ⟨_, .after rfl (.value rfl) (.value rfl), rfl⟩

private theorem assigningCaller_callee :
    assigningCaller.callee "u" = .ok ⟨"u", some assigningTree, .empty⟩ := rfl

/-- The body sees the variables and its argument, and its assignment is not seen by the caller. With
no argument the call fails. -/
theorem template_isolated_assigning :
    (∃ v w, (Walk.node .empty .invalid (.template ⟨0, 0⟩ "u" oneArgument) assigningCaller).Asks
        .empty (.enter assigningTree.root (.text "d")) v ∧
      v.vars = [("$", .invalid), ("$p", .text "p"), ("$", .text "d"), ("$a", .text "x")] ∧
      (Walk.node .empty .invalid (.template ⟨0, 0⟩ "u" oneArgument) assigningCaller).Ends .empty
        (.ok (), w) ∧
      w.writer.written = "x".toUTF8 ∧ w.vars = assigningCaller.vars) ∧
    (Walk.node .empty .invalid (.template ⟨0, 0⟩ "u" none) assigningCaller).Ends .empty
      (.error (.of (.badTemplateArgs "u" 1 0)), assigningCaller) := by
  constructor
  · obtain ⟨u, hu, hv⟩ := oneArgument_evaluated
    obtain ⟨w, hw, hout⟩ := oneArgument_ends
    obtain ⟨⟨v, entered⟩, starts, returns⟩ :=
      (template_isolated assigningCaller_callee rfl).2 rfl _ _ u hu
    refine ⟨v, w, entered, ?_, hw, hout, (returns _ _ hw trivial).trans hv⟩
    rw [(starts _ _ v entered).2.2, hv]
    rfl
  · have hn : (argumentOperands none).length ≠ assigningTree.args.length := by decide
    exact ((template_isolated assigningCaller_callee rfl).1 hn).1 _ _ _ .none

end TextTemplate
