import TextTemplate.Proofs.Ending

/-!
# Numbers of arguments

No function is entered with a number of arguments that its arity does not accept. What it would do
then is left open by the host (`Host.misuse`), and it makes no difference: whatever it is, every
render and every call by name ends as it does otherwise.
-/

set_option autoImplicit false

namespace TextTemplate

variable {host : Host} {misuse : Function → List Value → Plain Results}

/-- The host with other consequences of a wrong number of arguments. -/
def Host.misusing (host : Host) (misuse : Function → List Value → Plain Results) : Host :=
  { host with misuse := misuse }

/-! ### Functions -/

namespace Function

variable {f : Function} {args : List Value}

private theorem program_misusing (h : f.arity.accepts args.length = true) :
    f.program (host.misusing misuse) args = f.program host args := by
  rw [program_of_accepts h, program_of_accepts h]
  rfl

private theorem plainProgram_misusing (h : f.arity.accepts args.length = true) :
    f.plainProgram (host.misusing misuse) args = f.plainProgram host args := by
  rw [plainProgram, plainProgram, h]
  rfl

end Function

private theorem Context.callWithin_misusing (limit : Nat) :
    callWithin (host.misusing misuse) limit = callWithin host limit := by
  induction limit with
  | zero => rfl
  | succ limit ih =>
    funext context name args r
    rw [callWithin, callWithin, ih]
    cases context.funcs.get? name with
    | none => rfl
    | some value =>
      have resolved : value.resolve (host.misusing misuse) context =
          value.resolve host context := by
        cases value <;> rfl
      dsimp only
      rw [resolved]
      congr
      funext f r
      cases hc : f.checkArity name args.length with
      | error e => rfl
      | ok =>
        dsimp only
        rw [Function.plainProgram_misusing (Function.accepts_of_checkArity hc)]

private theorem Plain.run_misusing {α : Type} (p : Plain α) :
    p.run (host.misusing misuse) = p.run host := by
  funext r
  rw [run, run, Context.callWithin_misusing]

namespace Walk

private theorem ofExcept_error_bind {α β : Type} (e : EvalError) (k : α → Walk β) :
    (ofExcept (.error e) >>= k) = fail e := rfl

private theorem plain_misusing {α : Type} (p : Plain α) :
    plain (host.misusing misuse) p = plain host p := by
  rw [plain, plain, Plain.run_misusing]

private theorem resolve_misusing (f : FuncValue) :
    resolve (host.misusing misuse) f = resolve host f := by
  cases f with
  | direct f => rfl
  | contextBound id =>
    simp only [resolve, plain_misusing]
    rfl

private theorem program_misusing {α : Type} (p : Program α) :
    program (host.misusing misuse) p = program host p := by
  induction p with
  | finish p => exact plain_misusing p
  | run p next ih => simp only [program, plain_misusing, ih]
  | updateStore update next ih => simp only [program, ih]
  | view next ih | newObject o next ih | receive channel next ih | write text next ih
  | callValue f args next ih | runBlock handle dot args captured next ih
  | render template data next ih | yield template data next ih => simp only [program, ih]

private theorem callFunction_misusing (f : Function) (name : String) (args : List Value) :
    callFunction (host.misusing misuse) f name args = callFunction host f name args := by
  rw [callFunction, callFunction]
  cases hc : f.checkArity name args.length with
  | error e => rw [ofExcept_error_bind, ofExcept_error_bind]
  | ok =>
    rw [Function.program_misusing (Function.accepts_of_checkArity hc), program_misusing]

private theorem callValue_misusing (f : Value) (args : List Value) :
    callValue (host.misusing misuse) f args = callValue host f args := by
  rw [callValue, callValue]
  split
  · rw [resolve_misusing]
    congr
    funext g
    split
    · next ha => rw [Function.program_misusing ha, program_misusing]
    · rfl
  · rfl
  · rfl
  · rfl

/-! ### Expressions -/

private theorem call_misusing (f : Function) (name : String) (args : List (Walk Value))
    (last : Value) : call (host.misusing misuse) f name args last = call host f name args last := by
  simp only [call, callFunction_misusing]

private theorem callNamed_misusing (name : String) (args : List (Walk Value)) (last : Value) :
    callNamed (host.misusing misuse) name args last = callNamed host name args last := by
  simp only [callNamed, resolve_misusing, call_misusing]

private theorem member_misusing (receiver : Value) (name : String) (optional : Bool)
    (args : List (Walk Value)) (last : Value) :
    member (host.misusing misuse) receiver name optional args last =
      member host receiver name optional args last := by
  simp only [member, resolve_misusing, call_misusing]

private theorem path_misusing (optional : Bool) (args : List (Walk Value)) (last receiver : Value)
    (names : List String) :
    path (host.misusing misuse) optional args last receiver names =
      path host optional args last receiver names := by
  induction names generalizing receiver with
  | nil => rfl
  | cons name rest ih =>
    cases rest with
    | nil => exact member_misusing ..
    | cons next rest => simp only [path, member_misusing, ih]

private theorem identifier_misusing (name : String) (args : List (Walk Value)) (last : Value) :
    identifier (host.misusing misuse) name args last = identifier host name args last := by
  unfold identifier
  split
  · rfl
  · rfl
  · exact callNamed_misusing ..

end Walk

section Evaluation

open Walk

variable {dot : Value}

mutual

private theorem Operand.eval_misusing (o : Operand) (args : List (Walk Value)) (last : Value) :
    o.eval (host.misusing misuse) dot args last = o.eval host dot args last := by
  cases o with
  | mk span form => simp only [Operand.eval, form.eval_misusing]
termination_by structural o

private theorem OperandForm.eval_misusing (f : OperandForm) (span : Span) (args : List (Walk Value))
    (last : Value) :
    f.eval (host.misusing misuse) dot span args last = f.eval host dot span args last := by
  cases f with
  | field path optional => simp only [OperandForm.eval, path_misusing]
  | chain base path => simp only [OperandForm.eval, base.argument_misusing, path_misusing]
  | identifier name => simp only [OperandForm.eval, identifier_misusing]
  | «variable» name path => simp only [OperandForm.eval, path_misusing]
  | dot | nil | bool | text | number => rfl
  | pipe p => simp only [OperandForm.eval, p.eval_misusing]
  | expr op lhs rhs => simp only [OperandForm.eval, lhs.eval_misusing, rhs.eval_misusing]
termination_by structural f

private theorem Operand.argument_misusing (o : Operand) :
    o.argument (host.misusing misuse) dot = o.argument host dot := by
  cases o with
  | mk span form =>
    have h : (do
        setPlace span (.operand (.mk span form))
        form.eval (host.misusing misuse) dot span [] .invalid : Walk Value) = (do
        setPlace span (.operand (.mk span form))
        form.eval host dot span [] .invalid) := by
      rw [form.eval_misusing]
    cases form with
    | nil => rfl
    | _ => exact h
termination_by structural o

private theorem Operand.arguments_misusing (os : List Operand) :
    Operand.arguments (host.misusing misuse) dot os = Operand.arguments host dot os := by
  cases os with
  | nil => rfl
  | cons o rest =>
    simp only [Operand.arguments, o.argument_misusing, Operand.arguments_misusing rest]
termination_by structural os

private theorem Command.eval_misusing (c : Command) (last : Value) :
    c.eval (host.misusing misuse) dot last = c.eval host dot last := by
  cases c with
  | mk span operands =>
    cases operands with
    | nil => rfl
    | cons word args =>
      simp only [Command.eval, word.eval_misusing, Operand.arguments_misusing args]
termination_by structural c

private theorem Command.evalAll_misusing (cs : List Command) (last : Value) :
    Command.evalAll (host.misusing misuse) dot cs last = Command.evalAll host dot cs last := by
  cases cs with
  | nil => rfl
  | cons c rest =>
    simp only [Command.evalAll, c.eval_misusing, Command.evalAll_misusing rest]
termination_by structural cs

private theorem Pipe.eval_misusing (p : Pipe) :
    p.eval (host.misusing misuse) dot = p.eval host dot := by
  cases p with
  | mk span declarations commands trimRight =>
    simp only [Pipe.eval, Command.evalAll_misusing commands]
termination_by structural p

end

private theorem Command.evalWith_misusing (args : List (Walk Value)) (c : Command) :
    c.evalWith (host.misusing misuse) dot args = c.evalWith host dot args := by
  rw [Command.evalWith, Command.evalWith]
  split
  · rfl
  · exact Operand.eval_misusing ..

end Evaluation

/-! ### Nodes -/

namespace Walk

variable {dot : Value}

private theorem printResult_misusing (pipe : Pipe) (value : Value) :
    printResult (host.misusing misuse) pipe value = printResult host pipe value := by
  simp only [printResult, printValue, resolve_misusing, callFunction_misusing]

private theorem blockCall_misusing (pipe : Pipe) :
    blockCall (host.misusing misuse) pipe dot = blockCall host pipe dot := by
  simp only [blockCall, Command.evalAll_misusing]

private theorem callArguments_misusing (pipe : Option Pipe) :
    callArguments (host.misusing misuse) pipe dot = callArguments host pipe dot := by
  simp only [callArguments, Operand.argument_misusing, Operand.arguments_misusing,
    Pipe.eval_misusing]

private theorem node_misusing (n : Node) : node (host.misusing misuse) dot n = node host dot n := by
  cases n with
  | text | list | wrap => rfl
  | action span pipe =>
    simp only [node, Pipe.eval_misusing, printValue, resolve_misusing, callFunction_misusing]
  | branch kind span pipe body otherwise =>
    cases kind with
    | loop => simp only [node, loop, Pipe.eval_misusing]
    | cond | scope => simp only [node, choose, Pipe.eval_misusing]
  | template span name pipe => simp only [node, callTemplate, callArguments_misusing]
  | block kind span pipe body =>
    cases kind with
    | arg =>
      simp only [node, argBlock, blockCall_misusing, Operand.arguments_misusing,
        Command.evalWith_misusing, printResult_misusing]
    | callback => simp only [node, callbackBlock, blockCall_misusing, printResult_misusing]

private theorem each_misusing (nodes : List Node) :
    each (host.misusing misuse) dot nodes = each host dot nodes := by
  induction nodes with
  | nil => rfl
  | cons n rest ih => simp only [each, node_misusing, ih]

/-- Every task is done as it is with other consequences of a wrong number of arguments. -/
theorem start_misusing : start (host.misusing misuse) = start host := by
  funext task
  cases task with
  | walk | enter | render => simp only [start, each_misusing]
  | call f args => exact callValue_misusing f args
  | invoke => rfl
  | callback call body dot =>
    simp only [start, callWithBlock, Operand.arguments_misusing, Command.evalWith_misusing]

private theorem run_misusing : run (host.misusing misuse) = run host := by
  funext budget nodes dot s
  rw [run, run, start_misusing]

end Walk

private theorem Executor.execute_misusing (budget : Nat) (e : Executor) :
    e.execute (host.misusing misuse) budget = e.execute host budget := by
  have finished (e : Executor) :
      e.finish (host.misusing misuse) budget = e.finish host budget := by
    funext data w r
    simp only [finish, render, Walk.run_misusing]
  funext data extra w r
  simp only [execute, finished]

/-! ### Receivers -/

/-- Where an arity counts the receiver, what is left of it accepts just the other arguments. -/
theorem Arity.accepts_dropFirst {a : Arity} (h : 1 ≤ a.fixed ∨ a.variadic = true) (count : Nat) :
    a.dropFirst.accepts count = a.accepts (count + 1) := by
  obtain ⟨fixed, variadic⟩ := a
  cases variadic with
  | true =>
    show decide (fixed - 1 ≤ count) = decide (fixed ≤ count + 1)
    rw [decide_eq_decide]
    omega
  | false =>
    have hf : 1 ≤ fixed := h.resolve_right nofun
    show (count == fixed - 1) = (count + 1 == fixed)
    rw [Bool.eq_iff_iff, beq_iff_eq, beq_iff_eq]
    omega

section

variable (method : Function) (receiver : Value) (args : List Value)

/-- A method that is bound to a receiver is given it before its arguments. -/
theorem Function.bound_bind :
    (method.bind receiver).bound ++ args = method.bound ++ receiver :: args :=
  List.append_assoc ..

private theorem Function.body_bind :
    (method.bind receiver).body host args = method.body host (receiver :: args) := by
  rw [body, body, bound_bind]
  rfl

private theorem Function.plainBody_bind :
    (method.bind receiver).plainBody host args = method.plainBody host (receiver :: args) := by
  rw [plainBody, plainBody, bound_bind]
  rfl

end

/-! ### Calls with a wrong number of arguments -/

namespace Walk

variable {f : Function} {name : String} {args : List (Walk Value)} {last : Value} {s u : State}

private theorem call_mismatch
    (h : f.arity.accepts (args.length + (lastArgument last).length) = false) (s : State) :
    call host f name args last s = .done
      (.error (.arityMismatch name f.arity (args.length + (lastArgument last).length)), s) := by
  rw [call, Function.checkArity, h]
  rfl

/-- A call of the function that a name means fails before its arguments are evaluated. -/
theorem callNamed_mismatch {value : FuncValue} (hf : s.findFunc? name = some value)
    (hr : resolve host value s = .done (.ok f, u))
    (h : f.arity.accepts (args.length + (lastArgument last).length) = false) :
    callNamed host name args last s = .done
      (.error (.arityMismatch name f.arity (args.length + (lastArgument last).length)), u) := by
  rw [callNamed, read_bind, hf]
  dsimp only
  rw [bind_run, hr]
  exact call_mismatch h u

/-- A call of a member of a value fails before its arguments are evaluated. -/
theorem member_mismatch {value : FuncValue} {receiver : Value} {optional : Bool}
    (hf : Member.of s.exec.options s.missingKey receiver name optional = .function value)
    (hr : resolve host value s = .done (.ok f, u))
    (h : f.arity.accepts (args.length + (lastArgument last).length) = false) :
    member host receiver name optional args last s = .done
      (.error (.arityMismatch name f.arity (args.length + (lastArgument last).length)), u) := by
  rw [member, read_bind, hf]
  dsimp only
  rw [bind_run, hr]
  exact call_mismatch h u

end Walk

/-! ### The arity is respected -/

/-- No function is entered with a number of arguments that its arity does not accept: whatever
would come of it, all renders and all calls by name end in the same way. A method that is bound to
a receiver accepts the other arguments just where the method accepts all of them, if its arity
counts the receiver, and it then does what the method does. A call of a name or of a member with a
wrong number of arguments fails before it evaluates any of them. -/
theorem arity_respected (host : Host) (misuse : Function → List Value → Plain Results) :
    (∀ budget e data extra w r, Executor.execute (host.misusing misuse) budget e data extra w r =
      Executor.execute host budget e data extra w r) ∧
    (∀ context name args r, Context.call (host.misusing misuse) context name args r =
      Context.call host context name args r) ∧
    (∀ (method : Function) (receiver : Value) (args : List Value),
      1 ≤ method.arity.fixed ∨ method.arity.variadic = true →
        (method.bind receiver).arity.accepts args.length =
            method.arity.accepts (receiver :: args).length ∧
          (method.bind receiver).body host args = method.body host (receiver :: args) ∧
          (method.bind receiver).plainBody host args =
            method.plainBody host (receiver :: args)) ∧
    ∀ (value : FuncValue) (f : Function) (args : List (Walk Value)) (last : Value) (s u : State),
      Walk.resolve host value s = .done (.ok f, u) →
      f.arity.accepts (args.length + (Walk.lastArgument last).length) = false →
      ∀ name, let mismatch : EvalError :=
          .arityMismatch name f.arity (args.length + (Walk.lastArgument last).length)
        (s.findFunc? name = some value →
          Walk.callNamed host name args last s = .done (.error mismatch, u)) ∧
        ∀ receiver optional,
          Member.of s.exec.options s.missingKey receiver name optional = .function value →
          Walk.member host receiver name optional args last s = .done (.error mismatch, u) := by
  refine ⟨?_, ?_, ?_, ?_⟩
  · intro budget e data extra w r
    rw [Executor.execute_misusing]
  · intro context name args r
    rw [Context.call, Context.call, Context.callWithin_misusing]
  · intro method receiver args hm
    exact ⟨Arity.accepts_dropFirst hm args.length, Function.body_bind method receiver args,
      Function.plainBody_bind method receiver args⟩
  · intro value f args last s u hr ha name
    exact ⟨fun hf ↦ Walk.callNamed_mismatch hf hr ha,
      fun _ _ hf ↦ Walk.member_mismatch hf hr ha⟩

/-- The executor of a template that calls a function without its argument. -/
def Executor.lacking : Executor :=
  .root (.empty "t") ⟨"t", some (.ofNodes "t" [.action ⟨0, 0⟩ (.ofForms [[.identifier "not"]])]),
    .empty⟩ 0

/-- A function of one argument, called without it, and as a method that has it. -/
theorem arity_respected_not :
    let negate : Function := .ofBuiltin .not
    let host := Host.empty.misusing fun _ _ ↦ .panic (some "index out of bounds")
    (∃ result,
      Executor.lacking.execute host 2 .invalid [] .unlimited (.initial .nil) = some result ∧
      Executor.lacking.execute .empty 2 .invalid [] .unlimited (.initial .nil) = some result) ∧
    1 ≤ negate.arity.fixed ∧ (negate.bind (.bool true)).arity.accepts 0 = true ∧
    (negate.bind (.bool true)).body .empty [] = negate.body .empty [.bool true] ∧
    Walk.callNamed .empty "not" [] .invalid .blank =
      .done (.error (.arityMismatch "not" (.exactly 1) 0), .blank) := by
  intro negate host
  obtain ⟨hexec, -, hbind, hmismatch⟩ :=
    arity_respected .empty fun _ _ ↦ .panic (some "index out of bounds")
  obtain ⟨hcount, hbody, -⟩ := hbind negate (.bool true) [] (.inl (Nat.le_refl 1))
  refine ⟨⟨_, (hexec ..).trans rfl, rfl⟩, Nat.le_refl 1, hcount.trans rfl, hbody, ?_⟩
  exact (hmismatch (.direct negate) negate [] .invalid .blank .blank rfl rfl "not").1 rfl

end TextTemplate
