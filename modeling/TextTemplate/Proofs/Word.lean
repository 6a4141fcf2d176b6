import TextTemplate.Proofs.Isolation

/-!
# Words with a path

The word of a command may be a path of names into the dot, into the value of an operand or into a
variable (`Operand.Enters`). The names before the last one are followed without arguments
(`Walk.Comes`); the last one has the arguments of the command, and where it means a function on the
value that the others lead to (`Value.callable?`), this function is called with them. A word calls
one function at most (`Operand.Calls.unique`).
-/

set_option autoImplicit false

namespace TextTemplate

/-- A state in which an operand is being evaluated. -/
def State.atOperand (s : State) (o : Operand) : State :=
  { s with place := some (o.span, .operand o) }

/-- An operand that is evaluated does not matter for the variables. -/
@[simp] theorem State.atOperand_valueOf (s : State) (o : Operand) (name : String) :
    (s.atOperand o).valueOf name = s.valueOf name := rfl

/-- An operand that is evaluated does not matter for the functions. -/
@[simp] theorem State.atOperand_findFunc? (s : State) (o : Operand) (name : String) :
    (s.atOperand o).findFunc? name = s.findFunc? name := rfl

/-- The method of a name that a value has, bound to it, or the function among its attributes. -/
def Value.callable? (v : Value) (name : String) : Option FuncValue :=
  match v.indirect with
  | .record r cell => (r.method? name).map fun f ↦ .direct (f.bind (.record r cell))
  | .object _ o =>
    match o.attributes? with
    | .some attributes => (attributes.lookup name).bind Value.asFunc?
    | .none => (o.method? name).map .direct
  | _ => .none

/-- A word has a path into a value: into the dot, the value of an operand or a variable. -/
inductive Operand.Enters (host : Host) (dot : Value) (s : State) :
    Operand → Bool → List String → Value → State → Prop where
  | field {span : Span} {path : List String} {optional : Bool} :
      Enters host dot s (.mk span (.field path optional)) optional path dot
        (s.atOperand (.mk span (.field path optional)))
  | chain {span : Span} {base : Operand} {path : List String} {v : Value} {t : State} :
      (base.argument host dot (s.atOperand (.mk span (.chain base path)))).Ends host (.ok v, t) →
        Enters host dot s (.mk span (.chain base path)) false path v
          (t.atOperand (.mk span (.chain base path)))
  | «variable» {span : Span} {name : String} {path : List String} {v : Value} :
      s.valueOf name = .ok v → path ≠ [] →
        Enters host dot s (.mk span (.variable name path)) false path v
          (s.atOperand (.mk span (.variable name path)))

/-- A path leads to its last name on a value. -/
inductive Walk.Comes (host : Host) (optional : Bool) :
    State → Value → List String → Value → String → State → Prop where
  | last {s : State} {v : Value} {name : String} : Comes host optional s v [name] v name s
  | next {s t u : State} {v w x : Value} {name next last : String} {rest : List String} :
      (member host v name optional [] .invalid s).Ends host (.ok w, t) →
        Comes host optional t w (next :: rest) x last u →
          Comes host optional s v (name :: next :: rest) x last u

/-- A word means a function, which is known in a state: the function of a name, or what the last
name of a path means on the value that the names before it lead to. -/
inductive Operand.Calls (host : Host) (dot : Value) (s : State) :
    Operand → String → Function → State → Prop where
  | named {span : Span} {name : String} {value : FuncValue} {f : Function} {u : State} :
      name ≠ "GLOBALS" → name ≠ "SELF" → s.findFunc? name = some value →
        (Walk.resolve host value (s.atOperand (.mk span (.identifier name)))).Ends host (.ok f, u) →
          Calls host dot s (.mk span (.identifier name)) name f u
  | member {o : Operand} {optional : Bool} {path : List String} {v x : Value} {name : String}
      {value : FuncValue} {f : Function} {t u w : State} :
      o.Enters host dot s optional path v t → Walk.Comes host optional t v path x name u →
        x.callable? name = some value → (Walk.resolve host value u).Ends host (.ok f, w) →
          Calls host dot s o name f w

variable {host : Host} {dot : Value} {s t u : State} {o : Operand} {optional : Bool}
  {path : List String} {v w x : Value} {name : String} {f : Function} {args : List (Walk Value)}
  {last : Value} {r : Outcome Value × State}

namespace Member

variable {options : Options} {mode : MissingKey} {value : FuncValue}

/-- What a name means on a value that is there. -/
theorem of_of_ne_invalid (h : v.indirect ≠ .invalid) :
    Member.of options mode v name optional =
      match v.indirect with
      | .object id o =>
        match o.attributes? with
        | some attributes => ofAttribute (attributes.lookup name)
        | none => ofTarget options mode (.object id o) name optional
      | target => ofTarget options mode target name optional := by
  unfold Member.of
  split
  · exact absurd rfl h
  · rfl

private theorem ofField_ne_function (target : Value) (found : Option Value) :
    ofField options target name optional found ≠ function value := by
  unfold ofField
  split
  · nofun
  · split <;> nofun

private theorem ofEntry_ne_function (target : Value) (entries : Dict Value) :
    ofEntry options mode target entries name optional ≠ function value := by
  unfold ofEntry
  split
  · nofun
  · split <;> nofun

/-- A name means a function on a value that has a method or a function attribute of that name. -/
theorem of_eq_function_iff :
    Member.of options mode v name optional = .function value ↔ v.callable? name = some value := by
  unfold Member.of
  split
  · split <;> exact ⟨nofun, nofun⟩
  unfold Value.callable?
  cases v.indirect with
  | record r cell =>
    simp only [ofTarget, method?]
    cases hm : r.method? name with
    | some f => simp
    | none => simp [ofField_ne_function]
  | object id o =>
    dsimp only
    cases ha : o.attributes? with
    | some attributes =>
      dsimp only
      cases hl : attributes.lookup name with
      | none => simp [ofAttribute]
      | some a => cases a <;> simp [ofAttribute, Value.asFunc?]
    | none =>
      simp only [ofTarget, method?]
      cases hm : o.method? name with
      | some f => simp
      | none => simp [ofField_ne_function]
  | map entries cell => simp [ofTarget, method?, ofEntry_ne_function]
  | presence w found cell => simp [ofTarget, method?, ofField_ne_function]
  | _ => simp [ofTarget, method?]

end Member

/-! ### Paths -/

namespace Walk

/-- With arguments, a path ends as its last name does. -/
theorem Comes.ends_iff (h : Comes host optional s v path x name u) :
    (Walk.path host optional args last v path s).Ends host r ↔
      (member host x name optional args last u).Ends host r := by
  induction h with
  | last => rfl
  | next hm _ ih => exact (bind_ends_iff hm).trans ih

/-- A path that gives a value has come to its last name. -/
theorem comes_of_ends (hp : path ≠ [])
    (h : (Walk.path host optional args last v path s).Ends host (.ok w, t)) :
    ∃ x name u, Comes host optional s v path x name u ∧
      (member host x name optional args last u).Ends host (.ok w, t) := by
  induction path generalizing s v with
  | nil => exact absurd rfl hp
  | cons name rest ih =>
    cases rest with
    | nil => exact ⟨v, name, s, .last, h⟩
    | cons next rest =>
      obtain ⟨w, u, hm, h⟩ := of_bind_ends_ok h
      obtain ⟨x, last, z, hc, h⟩ := ih (List.cons_ne_nil _ _) h
      exact ⟨x, last, z, .next hm hc, h⟩

/-- A path comes to one value only, with one last name. -/
theorem Comes.unique {x' : Value} {name' : String} {u' : State}
    (h : Comes host optional s v path x name u) (h' : Comes host optional s v path x' name' u') :
    x = x' ∧ name = name' ∧ u = u' := by
  induction h with
  | last =>
    cases h'
    exact ⟨rfl, rfl, rfl⟩
  | next hm _ ih =>
    cases h' with
    | next hm' hc =>
      cases hm.unique hm'
      exact ih hc

end Walk

/-! ### Words -/

namespace Operand

open Walk

/-- An operand is evaluated by its form, at its place. -/
theorem eval_mk (span : Span) (form : OperandForm) (args : List (Walk Value)) (last : Value)
    (s : State) :
    (Operand.mk span form).eval host dot args last s =
      form.eval host dot span args last (s.atOperand (.mk span form)) := by
  rw [Operand.eval]
  rfl

/-- With arguments, a word with a path ends as the path does. -/
theorem Enters.eval_ends_iff (h : o.Enters host dot s optional path v t) :
    (o.eval host dot args last s).Ends host r ↔
      (Walk.path host optional args last v path t).Ends host r := by
  cases h with
  | field => rw [eval_mk, OperandForm.eval]
  | chain hbase =>
    rw [eval_mk, OperandForm.eval]
    exact bind_ends_iff hbase
  | «variable» hv hp =>
    have hpath : path.isEmpty = false := by rwa [List.isEmpty_eq_false_iff]
    rw [eval_mk, OperandForm.eval, read_bind, State.atOperand_valueOf, hv]
    simp only [hpath]
    rfl

/-- A word enters one path only. -/
theorem Enters.unique {optional' : Bool} {path' : List String} {v' : Value} {t' : State}
    (h : o.Enters host dot s optional path v t) (h' : o.Enters host dot s optional' path' v' t') :
    optional = optional' ∧ path = path' ∧ v = v' ∧ t = t' := by
  cases h with
  | field =>
    cases h'
    exact ⟨rfl, rfl, rfl, rfl⟩
  | chain hb =>
    cases h' with
    | chain hb' =>
      cases hb.unique hb'
      exact ⟨rfl, rfl, rfl, rfl⟩
  | «variable» hv =>
    cases h' with
    | «variable» hv' =>
      cases hv.symm.trans hv'
      exact ⟨rfl, rfl, rfl, rfl⟩

/-- A word that means a function ends with arguments as the call of the function does. -/
theorem Calls.eval_ends_iff (h : o.Calls host dot s name f u) :
    (o.eval host dot args last s).Ends host r ↔
      (Walk.call host f name args last u).Ends host r := by
  cases h with
  | named hglobals hself hfind hresolve =>
    have hcall : identifier host name args last = callNamed host name args last := by
      unfold identifier
      split
      · exact absurd rfl hglobals
      · exact absurd rfl hself
      · rfl
    rw [eval_mk, OperandForm.eval, hcall, callNamed, read_bind, State.atOperand_findFunc?, hfind]
    exact bind_ends_iff hresolve
  | member henters hcomes hcallable hresolve =>
    rw [henters.eval_ends_iff, hcomes.ends_iff, Walk.member, read_bind,
      Member.of_eq_function_iff.mpr hcallable]
    exact bind_ends_iff hresolve

/-- A word means one function at most. -/
theorem Calls.unique {name' : String} {f' : Function} {u' : State}
    (h : o.Calls host dot s name f u) (h' : o.Calls host dot s name' f' u') :
    name = name' ∧ f = f' ∧ u = u' := by
  cases h with
  | named _ _ hfind hresolve =>
    cases h' with
    | named _ _ hfind' hresolve' =>
      cases hfind.symm.trans hfind'
      cases hresolve.unique hresolve'
      exact ⟨rfl, rfl, rfl⟩
    | member henters => cases henters
  | member henters hcomes hcallable hresolve =>
    cases h' with
    | named => cases henters
    | member henters' hcomes' hcallable' hresolve' =>
      obtain ⟨rfl, rfl, rfl, rfl⟩ := henters.unique henters'
      obtain ⟨rfl, rfl, rfl⟩ := hcomes.unique hcomes'
      cases hcallable.symm.trans hcallable'
      cases hresolve.unique hresolve'
      exact ⟨rfl, rfl, rfl⟩

end Operand

end TextTemplate
