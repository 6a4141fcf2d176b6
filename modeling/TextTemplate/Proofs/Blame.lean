import TextTemplate.Proofs.Word

/-!
# The place of a failing call

An error tells the place that the render is at. Each operand that is evaluated sets the place, but
`nil` as an argument does not; a function that is called leaves the place as it was, and only
operators and paths into the value of an operand set it again after their parts. So a call that
fails is told to come from its word only if the place that its last argument left has the site of
the word (`Command.blames_iff`).
-/

set_option autoImplicit false

namespace TextTemplate

/-- Whether an operand is `nil`. -/
def Operand.isNil (o : Operand) : Bool :=
  match o.form with
  | .nil => true
  | _ => false

/-- The last one of operands that is not `nil`. -/
def Operand.lastPlaced (os : List Operand) : Option Operand :=
  (os.filter fun o ↦ !o.isNil).getLast?

mutual

/-- The places that an operand may leave: itself, or a place in its pipeline. -/
inductive Operand.LeavesAt : Operand → Span × Subject → Prop where
  | self {span : Span} {form : OperandForm} :
      (∀ p, form ≠ .pipe p) → Operand.LeavesAt (.mk span form) (span, .operand (.mk span form))
  | pipe {span : Span} {p : Pipe} {place : Span × Subject} :
      Pipe.LeavesAt p place → Operand.LeavesAt (.mk span (.pipe p)) place

/-- The places that a command may leave: that of its word, or of its last argument but for `nil`. -/
inductive Command.LeavesAt : Command → Span × Subject → Prop where
  | word {span : Span} {word : Operand} {os : List Operand} {place : Span × Subject} :
      Operand.LeavesAt word place → Command.LeavesAt (.mk span (word :: os)) place
  | argument {span : Span} {word o : Operand} {os : List Operand} {place : Span × Subject} :
      Operand.lastPlaced os = some o → Operand.LeavesAt o place →
        Command.LeavesAt (.mk span (word :: os)) place

/-- The places that a pipeline may leave: that of its last command, or itself if it has none. -/
inductive Pipe.LeavesAt : Pipe → Span × Subject → Prop where
  | self {span : Span} {declarations : List Declaration} {trimRight : Bool} :
      Pipe.LeavesAt (.mk span declarations [] trimRight)
        (span, .pipe (.mk span declarations [] trimRight))
  | last {span : Span} {declarations : List Declaration} {commands : List Command}
      {trimRight : Bool} {c : Command} {place : Span × Subject} :
      commands.getLast? = some c → Command.LeavesAt c place →
        Pipe.LeavesAt (.mk span declarations commands trimRight) place

end

/-- A call whose arguments evaluate to values, which leave a state, and whose function then fails
for them with a plain error. -/
inductive Command.CallFails (host : Host) (dot : Value) (s : State) (word : Operand)
    (os : List Operand) (last : Value) (name : String) (e : EvalError) (w : State) : Prop where
  | intro {f : Function} {u z : State} {vs : List Value} :
      word.Calls host dot s name f u → Evaluated host dot os u vs w →
        f.arity.accepts (vs ++ Walk.lastArgument last).length = true →
          (Walk.program host (f.program host (vs ++ Walk.lastArgument last)) w).Ends host
            (.error e, z) →
            e.isWrappable = true → CallFails host dot s word os last name e w

/-- What is promised of a call that fails: it ends with an error that is told to come from the
word. -/
def Command.Blames (host : Host) (dot : Value) (s : State) (span : Span) (word : Operand)
    (os : List Operand) (last : Value) : Prop :=
  ∃ e t, ((Command.mk span (word :: os)).eval host dot last s).Ends host (.error e, t) ∧
    (t.locate e).site = some (s.atOperand word).site

/-- If a step gives a value, then it leaves the place as it was, or is at one of some places. -/
def Walk.Moves {α : Type} (host : Host) (places : Span × Subject → Prop) (m : Walk α) : Prop :=
  ∀ s a t, (m s).Ends host (.ok a, t) →
    t.place = s.place ∨ ∃ place, places place ∧ t.place = some place

/-- If a step gives a value, then the render is at one of some places after it. -/
def Walk.Settles {α : Type} (host : Host) (places : Span × Subject → Prop) (m : Walk α) : Prop :=
  ∀ s a t, (m s).Ends host (.ok a, t) → ∃ place, places place ∧ t.place = some place

variable {α β : Type} {host : Host} {dot : Value} {s t u : State} {o word : Operand}
  {optional : Bool} {path : List String} {v w x : Value} {name : String} {f : Function}
  {args : List (Walk Value)} {last : Value} {places : Span × Subject → Prop}

namespace Walk

namespace Moves

private theorem pure (a : α) : (Pure.pure a : Walk α).Moves host places := by
  intro s b t h
  cases h
  exact .inl rfl

private theorem fail (e : EvalError) : (Walk.fail e : Walk α).Moves host places := by
  intro s b t h
  cases h

private theorem ofExcept (r : Except EvalError α) : (Walk.ofExcept r).Moves host places := by
  cases r with
  | ok a => exact pure a
  | error e => exact fail e

private theorem read (f : State → α) : (Walk.read f).Moves host places := by
  intro s b t h
  cases h
  exact .inl rfl

private theorem modify {f : State → State} (hf : ∀ s, (f s).place = s.place) :
    (Walk.modify f).Moves host places := by
  intro s b t h
  cases h
  exact .inl (hf s)

private theorem ended (f : Resources → Ended α) : (Walk.ended f).Moves host places := by
  intro s b t h
  rw [Walk.ended] at h
  generalize f s.resources = result at h
  obtain ⟨o, r⟩ := result
  cases h
  exact .inl rfl

private theorem hold (v : Value) : (Walk.hold v).Moves host places := ended _

private theorem bind {m : Walk α} {k : α → Walk β} (hm : m.Moves host places)
    (hk : ∀ a, (k a).Moves host places) : (m >>= k).Moves host places := by
  intro s b t h
  obtain ⟨a, u, ha, hb⟩ := of_bind_ends_ok h
  obtain hu | hu := hk a u b t hb
  · rw [hu]
    exact hm s a u ha
  · exact .inr hu

end Moves

private theorem Moves.mono {m : Walk α} {more : Span × Subject → Prop} (hm : m.Moves host places)
    (h : ∀ place, places place → more place) : m.Moves host more := by
  intro s a t hends
  exact (hm s a t hends).imp_right fun ⟨place, hplace, ht⟩ ↦ ⟨place, h place hplace, ht⟩

namespace Settles

variable {m : Walk α} {k : α → Walk β}

private theorem mono {more : Span × Subject → Prop} (hm : m.Settles host places)
    (h : ∀ place, places place → more place) : m.Settles host more := by
  intro s a t hends
  obtain ⟨place, hplace, ht⟩ := hm s a t hends
  exact ⟨place, h place hplace, ht⟩

private theorem moves (hm : m.Settles host places) : m.Moves host places :=
  fun s a t h ↦ .inr (hm s a t h)

/-- What comes before does not matter. -/
theorem after (hk : ∀ a, (k a).Settles host places) : (m >>= k).Settles host places := by
  intro s b t h
  obtain ⟨a, u, -, hb⟩ := of_bind_ends_ok h
  exact hk a u b t hb

private theorem bind (hm : m.Settles host places) (hk : ∀ a, (k a).Moves host places) :
    (m >>= k).Settles host places := by
  intro s b t h
  obtain ⟨a, u, ha, hb⟩ := of_bind_ends_ok h
  obtain hu | hu := hk a u b t hb
  · rw [hu]
    exact hm s a u ha
  · exact hu

private theorem setPlace {span : Span} {subject : Subject} (h : places (span, subject)) :
    (Walk.setPlace span subject).Settles host places := by
  intro s a t hends
  cases hends
  exact ⟨(span, subject), h, rfl⟩

end Settles

/-! ### Steps that leave the place -/

private theorem resolve_moves (f : FuncValue) : (resolve host f).Moves host places := by
  cases f with
  | direct f => exact .pure f
  | contextBound id =>
    refine Moves.bind (.read _) fun found ↦ ?_
    cases found with
    | some f => exact .pure f
    | none =>
      refine Moves.bind (.read _) fun context ↦ Moves.bind (.ended _) fun f ↦ ?_
      exact Moves.bind (.modify fun _ ↦ rfl) fun _ ↦ .pure f

private theorem callFunction_moves (f : Function) (name : String) (vs : List Value) :
    (callFunction host f name vs).Moves host places := by
  refine Moves.bind (.ofExcept _) fun _ s v t h ↦ ?_
  rw [read_bind] at h
  obtain ⟨r, u, hr, h⟩ := of_attempt_bind_ends h trivial
  cases r with
  | ok results =>
    obtain ⟨z, -, rfl⟩ := of_after_ends hr trivial
    exact Moves.hold (results.toValue) { z with place := s.place } v t h
  | error e => cases h

private theorem assign_moves (name : String) (v : Value) : (assign name v).Moves host places := by
  refine Moves.bind (.read _) fun vars ↦ ?_
  split
  · exact .modify fun _ ↦ rfl
  · exact .fail _

private theorem declare_moves (v : Value) (d : Declaration) : (declare v d).Moves host places := by
  rw [declare]
  split
  · exact .modify fun _ ↦ rfl
  · exact assign_moves _ v
  · refine Moves.bind (.read _) fun vars ↦ ?_
    split
    · exact Moves.bind (.ofExcept _) fun r ↦ Moves.bind (.hold r) fun w ↦ assign_moves _ w
    · exact .fail _

private theorem declareAll_moves (v : Value) (ds : List Declaration) :
    (declareAll v ds).Moves host places := by
  induction ds with
  | nil => exact .pure ()
  | cons d rest ih => exact .bind (declare_moves v d) fun _ ↦ ih

private theorem noArguments_moves (subject : String) (args : List (Walk Value)) (last : Value) :
    (noArguments subject args last).Moves host places := by
  rw [noArguments]
  split
  · exact .pure ()
  · exact .fail _

/-! ### Steps with arguments -/

section

variable (h : (values args).Moves host places)
include h

private theorem call_moves (f : Function) (name : String) (last : Value) :
    (call host f name args last).Moves host places :=
  .bind (.ofExcept _) fun _ ↦ .bind h fun _ ↦ callFunction_moves f name _

private theorem callNamed_moves (name : String) (last : Value) :
    (callNamed host name args last).Moves host places := by
  refine Moves.bind (.read _) fun found ↦ ?_
  split
  · exact .bind (resolve_moves _) fun f ↦ call_moves h f name last
  · exact .fail _

private theorem member_moves (v : Value) (name : String) (optional : Bool) (last : Value) :
    (member host v name optional args last).Moves host places := by
  refine Moves.bind (.read _) fun m ↦ ?_
  split
  · exact .pure _
  · split
    · exact .pure _
    · exact .fail _
  · exact .bind (resolve_moves _) fun f ↦ call_moves h f name last
  · exact .fail _

private theorem path_moves (optional : Bool) (last v : Value) (names : List String) :
    (Walk.path host optional args last v names).Moves host places := by
  induction names generalizing v with
  | nil => exact .pure v
  | cons name rest ih =>
    cases rest with
    | nil => exact member_moves h v name optional last
    | cons next rest => exact .bind (member_moves (.pure []) v name optional .invalid) ih

private theorem identifier_moves (name : String) (last : Value) :
    (identifier host name args last).Moves host places := by
  unfold identifier
  split
  · exact .read _
  · exact .bind (.read _) fun r ↦ .ofExcept r
  · exact callNamed_moves h name last

end

end Walk

/-! ### The places that operands leave -/

namespace Operand

private theorem lastPlaced_cons (o : Operand) (os : List Operand) :
    lastPlaced (o :: os) = (lastPlaced os).or (if o.isNil then none else some o) := by
  rw [lastPlaced, lastPlaced, List.filter_cons]
  cases o.isNil with
  | true => simp
  | false =>
    simp only [Bool.not_false, if_true, List.getLast?_cons]
    cases (os.filter fun o ↦ !o.isNil).getLast? <;> rfl

end Operand

open Walk

mutual

private theorem Operand.eval_settles (o : Operand) {args : List (Walk Value)} {last : Value}
    {places : Span × Subject → Prop} (hargs : (values args).Moves host places) :
    (o.eval host dot args last).Settles host fun place ↦ o.LeavesAt place ∨ places place := by
  cases o with
  | mk span form =>
    rw [Operand.eval]
    exact form.eval_settles span hargs
termination_by structural o

/-- The value of an operand by its form, where the operand has become the place. -/
theorem OperandForm.eval_settles (form : OperandForm) (span : Span) {args : List (Walk Value)}
    {last : Value} {places : Span × Subject → Prop} (hargs : (values args).Moves host places) :
    (do setPlace span (.operand (.mk span form))
        form.eval host dot span args last : Walk Value).Settles host
      fun place ↦ (Operand.mk span form).LeavesAt place ∨ places place := by
  -- the operand stays the place but for the arguments
  have own {m : Walk Value} (hform : ∀ p, form ≠ .pipe p) (hm : m.Moves host places) :
      (do setPlace span (.operand (.mk span form)); m : Walk Value).Settles host
        fun place ↦ (Operand.mk span form).LeavesAt place ∨ places place :=
    .bind (.setPlace (.inl (.self hform))) fun _ ↦ hm.mono fun _ ↦ .inr
  have constant (subject : String) {m : Walk Value} (hm : m.Moves host places) :
      (do noArguments subject args last; m).Moves host places :=
    .bind (noArguments_moves subject args last) fun _ ↦ hm
  cases form with
  | field path optional =>
    rw [OperandForm.eval]
    exact own nofun (path_moves hargs optional last dot path)
  | chain base path =>
    rw [OperandForm.eval]
    exact .after fun _ ↦ .after fun x ↦ own nofun (path_moves hargs false last x path)
  | identifier name =>
    rw [OperandForm.eval]
    exact own nofun (identifier_moves hargs name last)
  | «variable» name path =>
    rw [OperandForm.eval]
    refine own nofun (.bind (.read _) fun found ↦ .bind (.ofExcept _) fun x ↦ ?_)
    split
    · exact constant _ (.pure x)
    · exact path_moves hargs false last x path
  | dot | nil | bool | text =>
    rw [OperandForm.eval]
    exact own nofun (constant _ (.pure _))
  | number n =>
    rw [OperandForm.eval]
    exact own nofun (constant _ (.ofExcept _))
  | pipe p =>
    rw [OperandForm.eval]
    exact .after fun _ ↦ p.eval_settles.mono fun _ hplace ↦ .inl (.pipe hplace)
  | expr op lhs rhs =>
    rw [OperandForm.eval]
    refine .after fun _ ↦ .after fun l ↦ .after fun r ↦ own nofun ?_
    exact .bind (.ofExcept _) fun x ↦ .hold x
termination_by structural form

private theorem Operand.argument_settles (o : Operand) (ho : o.isNil = false) :
    (o.argument host dot).Settles host o.LeavesAt := by
  cases o with
  | mk span form =>
    have hnone : (values []).Moves host fun _ ↦ False := .pure []
    have h : (do setPlace span (.operand (.mk span form))
                 form.eval host dot span [] .invalid : Walk Value).Settles host
        (Operand.mk span form).LeavesAt :=
      (form.eval_settles span hnone).mono fun _ hplace ↦ hplace.resolve_right id
    cases form with
    | nil => cases ho
    | _ => exact h
termination_by structural o

private theorem Operand.arguments_settle (os : List Operand) :
    match Operand.lastPlaced os with
    | none => (values (Operand.arguments host dot os)).Moves host fun _ ↦ False
    | some o => (values (Operand.arguments host dot os)).Settles host o.LeavesAt := by
  cases os with
  | nil => exact .pure []
  | cons o rest =>
    have hfirst := o.argument_settles
    have hrest := Operand.arguments_settle rest
    rw [Operand.lastPlaced_cons]
    generalize Operand.lastPlaced rest = found at hrest ⊢
    cases found with
    | some last => exact .after fun _ ↦ .bind hrest fun _ ↦ .pure _
    | none =>
      have hrest {places : Span × Subject → Prop} (v : Value) :
          (do let vs ← values (Operand.arguments host dot rest)
              return v :: vs : Walk (List Value)).Moves host places :=
        .bind (hrest.mono fun _ ↦ False.elim) fun _ ↦ .pure _
      cases ho : o.isNil with
      | true =>
        obtain ⟨span, form⟩ := o
        cases form with
        | nil => exact .bind (.pure _) hrest
        | _ => cases ho
      | false => exact .bind (hfirst ho) hrest
termination_by structural os

private theorem Command.eval_settles (c : Command) (last : Value) :
    (c.eval host dot last).Settles host c.LeavesAt := by
  cases c with
  | mk span operands =>
    cases operands with
    | nil =>
      intro s a t h
      cases h
    | cons word os =>
      have hargs : (values (Operand.arguments host dot os)).Moves host
          fun place ↦ ∃ o, Operand.lastPlaced os = some o ∧ o.LeavesAt place := by
        have h := Operand.arguments_settle os
        cases hlast : Operand.lastPlaced os with
        | none =>
          rw [hlast] at h
          exact h.mono fun _ ↦ False.elim
        | some o =>
          rw [hlast] at h
          exact h.moves.mono fun place hplace ↦ ⟨o, rfl, hplace⟩
      rw [Command.eval]
      refine (word.eval_settles hargs).mono fun place h ↦ ?_
      obtain hword | ⟨o, ho, hplace⟩ := h
      · exact .word hword
      · exact .argument ho hplace
termination_by structural c

private theorem Command.evalAll_settles (cs : List Command) (last : Value) :
    match cs.getLast? with
    | none => (Command.evalAll host dot cs last).Moves host fun _ ↦ False
    | some c => (Command.evalAll host dot cs last).Settles host c.LeavesAt := by
  cases cs with
  | nil => exact .pure last
  | cons c rest =>
    have hfirst := c.eval_settles last
    have hrest := Command.evalAll_settles rest
    rw [List.getLast?_cons]
    generalize rest.getLast? = found at hrest ⊢
    cases found with
    | none => exact .bind hfirst fun v ↦ (hrest v).mono fun _ ↦ False.elim
    | some last => exact .after fun v ↦ hrest v
termination_by structural cs

private theorem Pipe.eval_settles (p : Pipe) : (p.eval host dot).Settles host p.LeavesAt := by
  cases p with
  | mk span declarations commands trimRight =>
    have hcommands := Command.evalAll_settles commands .invalid
    have hdeclare {places : Span × Subject → Prop} (v : Value) :
        (do declareAll v declarations
            return v : Walk Value).Moves host places :=
      .bind (declareAll_moves v declarations) fun _ ↦ .pure v
    rw [Pipe.eval]
    cases hlast : commands.getLast? with
    | none =>
      rw [hlast] at hcommands
      cases List.getLast?_eq_none_iff.mp hlast
      refine .bind (.setPlace .self) fun _ ↦ .bind (hcommands.mono fun _ ↦ False.elim) hdeclare
    | some c =>
      rw [hlast] at hcommands
      refine .after fun _ ↦ .bind (hcommands.mono fun _ ↦ .last hlast) hdeclare
termination_by structural p

end

/-! ### Calls -/

private theorem Operand.length_arguments (os : List Operand) :
    (Operand.arguments host dot os).length = os.length := by
  induction os with
  | nil => rfl
  | cons o rest ih => rw [Operand.arguments, List.length_cons, List.length_cons, ih]

private theorem Walk.Moves.place_eq {m : Walk α} {a : α} (hm : m.Moves host fun _ ↦ False)
    (h : (m s).Ends host (.ok a, t)) : t.place = s.place :=
  (hm s a t h).resolve_right fun ⟨_, hplace, _⟩ ↦ hplace

/-- The names of a path but for the last one leave the place. -/
theorem Walk.Comes.place_eq (h : Comes host optional s v path x name u) : u.place = s.place := by
  induction h with
  | last => rfl
  | next hm _ ih =>
    have hnone : (values []).Moves host fun _ ↦ False := .pure []
    exact ih.trans ((member_moves hnone _ _ _ _).place_eq hm)

/-- A function is known at the place of the word that means it. -/
theorem Operand.Calls.place_eq (h : word.Calls host dot s name f u) :
    u.place = (s.atOperand word).place := by
  cases h with
  | named _ _ _ hresolve => exact (resolve_moves _).place_eq hresolve
  | member henters hcomes _ hresolve =>
    rw [(resolve_moves _).place_eq hresolve, hcomes.place_eq]
    cases henters <;> rfl

/-- The place that the arguments of a call leave. -/
theorem Evaluated.place {os : List Operand} {vs : List Value}
    (h : Evaluated host dot os s vs t) :
    match Operand.lastPlaced os with
    | none => t.place = s.place
    | some o => ∃ place, o.LeavesAt place ∧ t.place = some place := by
  have hvalues := values_ends_iff.mpr h
  have hsettle := @Operand.arguments_settle host dot os
  cases hlast : Operand.lastPlaced os with
  | none =>
    rw [hlast] at hsettle
    exact hsettle.place_eq hvalues
  | some o =>
    rw [hlast] at hsettle
    exact hsettle _ _ _ hvalues

namespace Command

variable {span : Span} {os : List Operand} {e : EvalError} {w : State}

/-- The place that the arguments of a call leave: that of its word, if all of them are `nil`. -/
theorem CallFails.place (h : CallFails host dot s word os last name e w) :
    match Operand.lastPlaced os with
    | none => w.place = (s.atOperand word).place
    | some o => ∃ place, o.LeavesAt place ∧ w.place = some place := by
  obtain ⟨hcalls, hvs, -⟩ := h
  have hplace := hvs.place
  rw [hcalls.place_eq] at hplace
  exact hplace

/-- A call that fails ends with an error that tells its name, at the place that the arguments
left. -/
theorem CallFails.ends (h : CallFails host dot s word os last name e w) (span : Span) :
    ∃ t, ((Command.mk span (word :: os)).eval host dot last s).Ends host
      (.error (.callFailed name e), t) ∧ t.place = w.place := by
  obtain @⟨f, u, z, vs, hcalls, hvs, harity, hbody, he⟩ := h
  have hlength : (Operand.arguments host dot os).length = vs.length :=
    (Operand.length_arguments os).trans hvs.length_eq.symm
  have hgiven : f.checkArity name (vs.length + (lastArgument last).length) = .ok () := by
    rw [Function.checkArity, ← List.length_append, if_pos harity]
  have hfunction : (callFunction host f name (vs ++ lastArgument last) w).Ends host
      (.error (.callFailed name e), { z with place := w.place }) := by
    rw [callFunction, List.length_append, hgiven]
    refine bind_ends (.done _) ?_
    rw [read_bind]
    refine bind_ends (attempt_ends_error (after_ends hbody trivial)) ?_
    dsimp only
    rw [if_pos he]
    exact .done _
  refine ⟨{ z with place := w.place }, ?_, rfl⟩
  rw [Command.eval, hcalls.eval_ends_iff, call, hlength, hgiven]
  exact bind_ends (.done _) (bind_ends (values_ends_iff.mpr hvs) hfunction)

private theorem site_of_eval_ends
    (h : ((Command.mk span (word :: os)).eval host dot last s).Ends host (.error e, t)) :
    t.site = State.site { s with place := t.place } := by
  have hcalm : ((Command.mk span (word :: os)).eval host dot last).Calm host anyCall :=
    Command.eval_calm _ last
  have hlevel : Level host s t := (hcalm s s (.refl s)).ends start_meets h
  simp only [State.site, State.whereabouts, hlevel.exec, hlevel.template]

private theorem CallFails.blames_iff_site (h : CallFails host dot s word os last name e w) :
    Blames host dot s span word os last ↔
      State.site { s with place := w.place } = (s.atOperand word).site := by
  obtain ⟨t, hends, ht⟩ := h.ends span
  rw [← ht, ← site_of_eval_ends hends]
  constructor
  · rintro ⟨e', t', hends', hsite⟩
    cases hends.unique hends'
    exact Option.some.inj hsite
  · intro hsite
    exact ⟨_, t, hends, congrArg some hsite⟩

/-- The error of a call that fails is told to come from the word just if the place that the last
argument other than `nil` left has the site of the word. -/
theorem blames_iff (h : CallFails host dot s word os last name e w) :
    Blames host dot s span word os last ↔
      ∀ o, Operand.lastPlaced os = some o → ∃ place, o.LeavesAt place ∧ w.place = some place ∧
        State.site { s with place := some place } = (s.atOperand word).site := by
  have hplace := h.place
  rw [h.blames_iff_site]
  cases hlast : Operand.lastPlaced os with
  | none =>
    rw [hlast] at hplace
    rw [hplace]
    exact ⟨fun _ ↦ nofun, fun _ ↦ rfl⟩
  | some o =>
    rw [hlast] at hplace
    obtain ⟨place, hleaves, hw⟩ := hplace
    rw [hw]
    constructor
    · rintro hsite _ ⟨⟩
      exact ⟨place, hleaves, rfl, hsite⟩
    · intro hall
      obtain ⟨_, -, heq, hsite⟩ := hall o rfl
      cases heq
      exact hsite

/-- A render of a source at its start. -/
def readingState (source : String) : State :=
  .initial (.root (.empty "t") ⟨"t", some ⟨"t", "t", [], [], 0, source⟩, .empty⟩ 0) .invalid
    .unlimited (.initial .nil)

/-- The word of the calls of `len`. -/
def lenWord : Operand := .mk ⟨2, 5⟩ (.identifier "len")

/-- The call `len nil` fails, and its error comes from the word. -/
theorem blames_nil :
    let os : List Operand := [.mk ⟨6, 9⟩ .nil]
    let s := readingState "{{len nil}}"
    CallFails .empty .invalid s lenWord os .invalid "len" (.new "len of nil pointer")
        (s.atOperand lenWord) ∧
      Blames .empty .invalid s ⟨2, 9⟩ lenWord os .invalid := by
  intro os s
  have hcalls : lenWord.Calls .empty .invalid s "len" (.ofBuiltin .len) (s.atOperand lenWord) :=
    .named (by decide) (by decide) rfl (.done _)
  have hfails : CallFails .empty .invalid s lenWord os .invalid "len" (.new "len of nil pointer")
      (s.atOperand lenWord) :=
    .intro hcalls (.cons (.done _) .nil) rfl (.done _) rfl
  exact ⟨hfails, (blames_iff hfails).mpr nofun⟩

/-- The call `len true` fails, and its error comes from the argument. -/
theorem not_blames_bool :
    let argument : Operand := .mk ⟨6, 10⟩ (.bool true)
    let s := readingState "{{len true}}"
    CallFails .empty .invalid s lenWord [argument] .invalid "len" (.new "len of type bool")
        ((s.atOperand lenWord).atOperand argument) ∧
      (s.atOperand argument).site.context = "true" ∧ (s.atOperand lenWord).site.context = "len" ∧
      ¬ Blames .empty .invalid s ⟨2, 10⟩ lenWord [argument] .invalid := by
  intro argument s
  have hcalls : lenWord.Calls .empty .invalid s "len" (.ofBuiltin .len) (s.atOperand lenWord) :=
    .named (by decide) (by decide) rfl (.done _)
  have hfails : CallFails .empty .invalid s lenWord [argument] .invalid "len"
      (.new "len of type bool") ((s.atOperand lenWord).atOperand argument) :=
    .intro hcalls (.cons (.done _) .nil) rfl (.done _) rfl
  refine ⟨hfails, by decide, by decide, ?_⟩
  intro hblames
  have hsite : (s.atOperand argument).site = (s.atOperand lenWord).site :=
    hfails.blames_iff_site.mp hblames
  have hcontext := congrArg Site.context hsite
  revert hcontext
  decide

end Command

end TextTemplate
