import TextTemplate.Proofs.Word

/-!
# Members that can be called

Whether a name means a function on a value is asked in three places: the data of a render brings
its functions along (`State.dataFunc?`), a path follows a name (`Member.of`), and a built-in
function tests for a member (`Logic.hasMember`). The first two find the same function
(`Member.func?_of`). The test agrees with them unless the value is an object with attributes, which
it does not look at (`callable_agrees_iff`).
-/

set_option autoImplicit false

namespace TextTemplate

/-- Whether a value is a record, a map or an object, through optionals. -/
def Value.hasMembers (v : Value) : Bool :=
  match v.indirect with
  | .record .. | .map .. | .object .. => true
  | _ => false

/-- The function that a member is. -/
def Member.func? : Member → Option FuncValue
  | function f => some f
  | value v | field v => v.asFunc?
  | fault _ => none

/-- The built-in test says that a value has a callable member of a name. -/
def Logic.Offers (host : Host) (v : Value) (name : String) : Prop :=
  (Function.ofBuiltin .hasMethod).plainProgram host [v, .text name] = .done (.single (.bool true))

/-- Without arguments, a name leads to a function on a value: to one that is called, or to one that
is the result. -/
inductive Walk.LeadsTo (host : Host) (s : State) (v : Value) (name : String) (optional : Bool)
    (f : FuncValue) : Prop where
  | called : Member.of s.exec.options s.missingKey v name optional = .function f →
      LeadsTo host s v name optional f
  | given {t : State} :
      (∀ g, Member.of s.exec.options s.missingKey v name optional ≠ .function g) →
        (member host v name optional [] .invalid s).Ends host (.ok (.func f), t) →
          LeadsTo host s v name optional f

/-- The three answers to whether a name can be called on a value are the same. -/
structure CallableAlike (host : Host) (s : State) (v : Value) (name : String)
    (optional : Bool) : Prop where
  offered_iff : Logic.Offers host v name ↔ ∃ f, State.dataFunc? v name = some f
  found_iff : (∃ f, State.dataFunc? v name = some f) ↔ ∃ f, Walk.LeadsTo host s v name optional f

/-- An object has attributes of which one is a function where neither a method nor a field is, or
the other way round. -/
def Value.Diverts (v : Value) (name : String) : Prop :=
  ∃ id o attributes, v.indirect = .object id o ∧ o.attributes? = .some attributes ∧
    ((attributes.lookup name).bind Value.asFunc?).isSome ≠
      ((o.method? name).isSome || Logic.isFunction (o.field? name))

variable {host : Host} {s : State} {options : Options} {mode : MissingKey} {v : Value}
  {name : String} {optional : Bool} {f : FuncValue}

/-! ### Paths -/

/-- Where the host says nothing of missing fields, only the empty text stands in for one. -/
theorem Options.standIn?_cases (h : options.missingField = none) (target : Value) :
    options.standIn? target name optional = none ∨
      options.standIn? target name optional = some (.text "") := by
  rw [standIn?, h]
  split
  · exact .inr rfl
  · exact .inl rfl

namespace Member

private theorem func?_ofAttribute (found : Option Value) :
    (ofAttribute found).func? = found.bind Value.asFunc? := by
  cases found with
  | none => rfl
  | some a => cases a <;> rfl

private theorem func?_ofField (h : options.missingField = none) (target : Value)
    (found : Option Value) :
    (ofField options target name optional found).func? = found.bind Value.asFunc? := by
  cases found with
  | some w => rfl
  | none =>
    obtain hstand | hstand := Options.standIn?_cases h target <;>
    · rw [ofField, hstand]
      rfl

private theorem func?_ofEntry (h : options.missingField = none) (target : Value)
    (entries : Dict Value) : (ofEntry options mode target entries name optional).func? =
      (entries.get? (.text name)).bind Value.asFunc? := by
  unfold ofEntry
  cases entries.get? (.text name) with
  | some w => rfl
  | none =>
    cases mode with
    | absent =>
      obtain hstand | hstand := Options.standIn?_cases h target <;>
      · dsimp only
        rw [hstand]
        rfl
    | zero =>
      cases entries.firstValue? with
      | none => rfl
      | some w => cases w <;> rfl
    | error => rfl

/-- A path finds the functions that the value would bring along as the data of a render. -/
theorem func?_of (hv : v.hasMembers = true) (h : options.missingField = none) :
    (Member.of options mode v name optional).func? = State.dataFunc? v name := by
  rw [Value.hasMembers] at hv
  rw [State.dataFunc?]
  have hpresent : v.indirect ≠ .invalid := by
    intro hinvalid
    rw [hinvalid] at hv
    cases hv
  rw [of_of_ne_invalid hpresent]
  cases hi : v.indirect with
  | record r cell =>
    simp only [ofTarget, method?]
    cases r.method? name with
    | some g => rfl
    | none => exact func?_ofField h _ _
  | object id o =>
    simp only []
    cases o.attributes? with
    | some attributes => exact func?_ofAttribute _
    | none =>
      simp only [ofTarget, method?]
      cases o.method? name with
      | some g => rfl
      | none => exact func?_ofField h _ _
  | map entries cell => exact func?_ofEntry h _ _
  | _ =>
    rw [hi] at hv
    cases hv

end Member

namespace Walk

/-- A name leads to the function that it means on the value. -/
theorem leadsTo_iff :
    LeadsTo host s v name optional f ↔
      (Member.of s.exec.options s.missingKey v name optional).func? = some f := by
  constructor
  · intro h
    cases h with
    | called hm => rw [hm, Member.func?]
    | given hnot hends =>
      rw [member, read_bind] at hends
      cases hm : Member.of s.exec.options s.missingKey v name optional with
      | function g => exact absurd hm (hnot g)
      | value w | field w =>
        rw [hm] at hends
        cases hends
        rfl
      | fault cause =>
        rw [hm] at hends
        cases hends
  · intro h
    cases hm : Member.of s.exec.options s.missingKey v name optional with
    | function g =>
      rw [hm] at h
      cases h
      exact .called hm
    | value w | field w =>
      rw [hm] at h
      obtain rfl : w = .func f := by
        cases w <;> cases h
        rfl
      refine .given (t := s) (by simp [hm]) ?_
      rw [member, read_bind, hm]
      exact .done _
    | fault cause =>
      rw [hm] at h
      cases h

end Walk

/-! ### The test -/

namespace Logic

private theorem offers_iff : Offers host v name ↔ hasMember v name = true := by
  have hcall : (Function.ofBuiltin .hasMethod).plainProgram host [v, .text name] =
      .done (.single (.bool (hasMember v name))) := rfl
  rw [Offers, hcall]
  simp only [Plain.done.injEq, Results.single.injEq, Value.bool.injEq]

private theorem isFunction_eq (found : Option Value) :
    isFunction found = (found.bind Value.asFunc?).isSome := by
  cases found <;> rfl

/-- Apart from attributes, the test finds a member where the value brings a function along. -/
theorem hasMember_eq (h : ∀ id o, v.indirect = .object id o → o.attributes? = none) :
    hasMember v name = (State.dataFunc? v name).isSome := by
  unfold hasMember State.dataFunc?
  cases hi : v.indirect with
  | record r cell =>
    simp only [isFunction_eq]
    cases r.method? name <;> rfl
  | map entries cell => exact isFunction_eq _
  | object id o =>
    simp only [isFunction_eq, h id o hi]
    cases o.method? name <;> rfl
  | _ => rfl

end Logic

/-- The test misses what the value brings along, or finds more, where attributes say otherwise. -/
theorem Value.diverts_iff :
    v.Diverts name ↔ Logic.hasMember v name ≠ (State.dataFunc? v name).isSome := by
  constructor
  · rintro ⟨id, o, attributes, hi, ha, hne⟩
    rw [Logic.hasMember, State.dataFunc?, hi]
    simp only [ha]
    exact hne.symm
  · intro hne
    obtain ⟨id, o, hi, ha⟩ : ∃ id o, v.indirect = .object id o ∧ o.attributes? ≠ none := by
      by_cases h : ∀ id o, v.indirect = .object id o → o.attributes? = none
      · exact absurd (Logic.hasMember_eq h) hne
      · simpa using h
    obtain ⟨attributes, ha⟩ := Option.ne_none_iff_exists'.mp ha
    rw [Logic.hasMember, State.dataFunc?, hi] at hne
    simp only [ha] at hne
    exact ⟨id, o, attributes, hi, ha, hne.symm⟩

/-- The three answers to whether a name can be called on a record, a map or an object are the same
unless it is an object with attributes that say otherwise than its methods and fields, where no hook
gives values to missing fields. What the value brings along as data is always what a path leads
to. -/
theorem callable_agrees_iff (host : Host) (name : String) (optional : Bool)
    (hv : v.hasMembers = true) (hhook : s.exec.options.missingField = none) :
    (∀ f, State.dataFunc? v name = some f ↔ Walk.LeadsTo host s v name optional f) ∧
      (CallableAlike host s v name optional ↔ ¬ v.Diverts name) := by
  have hfound (f : FuncValue) :
      State.dataFunc? v name = some f ↔ Walk.LeadsTo host s v name optional f := by
    rw [Walk.leadsTo_iff, Member.func?_of hv hhook]
  refine ⟨hfound, ?_⟩
  rw [Value.diverts_iff, ne_eq, Decidable.not_not, Bool.eq_iff_iff, ← Logic.offers_iff,
    Option.isSome_iff_exists]
  exact ⟨fun h ↦ h.offered_iff, fun h ↦ ⟨h, exists_congr hfound⟩⟩

/-- An object with a method, and with attributes if any are given. -/
def inverter (attributes : Option (List (String × Value))) : Value :=
  .object 0 (.host
    { typeName := "Inverter", text := none, empty := none, items := none, attributes := attributes,
      fields := [], methods := [("Not", .ofBuiltin .not)] })

/-- A method of an object without attributes, in an optional, is found by all three. -/
theorem callable_agrees_method :
    CallableAlike .empty .blank (.some (inverter none) none) "Not" false ∧
      Logic.Offers .empty (.some (inverter none) none) "Not" := by
  have hhook : State.blank.exec.options.missingField = none := rfl
  obtain ⟨-, hagree⟩ :=
    callable_agrees_iff (s := .blank) (v := .some (inverter none) none) .empty "Not" false rfl hhook
  refine ⟨hagree.mpr ?_, rfl⟩
  rintro ⟨id, o, attributes, hi, ha, -⟩
  cases hi
  cases ha

/-- The test finds a method that attributes hide. -/
theorem not_callable_agrees_hidden :
    Logic.Offers .empty (inverter (some [])) "Not" ∧
      State.dataFunc? (inverter (some [])) "Not" = none ∧
      ¬ CallableAlike .empty .blank (inverter (some [])) "Not" false := by
  have hnone : State.dataFunc? (inverter (some [])) "Not" = none := rfl
  refine ⟨rfl, hnone, fun h ↦ ?_⟩
  obtain ⟨f, hf⟩ := h.offered_iff.mp rfl
  cases hnone.symm.trans hf

end TextTemplate
