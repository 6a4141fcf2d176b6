import TextTemplate.Proofs.OptionalField
import TextTemplate.Proofs.Word

/-!
# What becomes of arguments

A word that stands for data takes arguments only where it means a method or a function attribute,
which is then called with all of them (`Command.TakesArguments`). This holds unless arguments are
dropped (`Command.takesArguments_iff`): by the two words for the data and the dot of the template,
by paths without names, and by the last name of a path where it is looked up in nothing at all, in a
map or among attributes, or where something stands in for a field.
-/

set_option autoImplicit false

namespace TextTemplate

/-- A name gives a value on another one, whatever arguments it has. -/
inductive Value.Overlooks (options : Options) (mode : MissingKey) (optional : Bool) (v : Value)
    (name : String) : Prop where
  | absent : v = .invalid → mode ≠ .error → Overlooks options mode optional v name
  | ofAttributes {id : Nat} {o : Object} {attributes : List (String × Value)} :
      v.indirect = .object id o → o.attributes? = .some attributes →
        (attributes.lookup name).bind Value.asFunc? = .none → Overlooks options mode optional v name
  | entry {entries : Dict Value} {cell : Option Nat} {w : Value} :
      v.indirect = .map entries cell → entries.get? (.text name) = .some w →
        Overlooks options mode optional v name
  | missingEntry {entries : Dict Value} {cell : Option Nat} :
      v.indirect = .map entries cell → entries.get? (.text name) = .none → mode ≠ .error →
        Overlooks options mode optional v name
  | standIn {w : Value} :
      v.Lacks name → (∀ entries cell, v.indirect ≠ .map entries cell) →
        options.standIn? v.indirect name optional = .some w → Overlooks options mode optional v name

/-- Words that stand for data: paths, the dot, literals, and the names of the data and the dot of
the template. -/
def Operand.isDatum (o : Operand) : Bool :=
  match o.form with
  | .identifier name => name == "GLOBALS" || name == "SELF"
  | .pipe _ | .expr .. => false
  | _ => true

/-- A word gives a value and drops the arguments that it has. -/
inductive Operand.Drops (host : Host) (dot : Value) (s : State) : Operand → Prop where
  | data {span : Span} : Drops host dot s (.mk span (.identifier "GLOBALS"))
  | root {span : Span} {v : Value} :
      s.valueOf State.rootName = .ok v → Drops host dot s (.mk span (.identifier "SELF"))
  | whole {o : Operand} {optional : Bool} {v : Value} {t : State} :
      o.Enters host dot s optional [] v t → Drops host dot s o
  | member {o : Operand} {optional : Bool} {path : List String} {v x : Value} {name : String}
      {t u : State} :
      o.Enters host dot s optional path v t → Walk.Comes host optional t v path x name u →
        x.Overlooks u.exec.options u.missingKey optional name → Drops host dot s o

/-- What is promised of a command with arguments: it gives a value only by a call of the function
that its word means, with all of them; and it fails where its word gives a value without a call. -/
structure Command.TakesArguments (host : Host) (dot : Value) (s : State) (span : Span)
    (word : Operand) (os : List Operand) (last : Value) : Prop where
  passes {v : Value} {t : State} :
    ((Command.mk span (word :: os)).eval host dot last s).Ends host (.ok v, t) →
      ∃ name f u vs w, word.Calls host dot s name f u ∧ Evaluated host dot os u vs w ∧
        (Walk.callFunction host f name (vs ++ Walk.lastArgument last) w).Ends host (.ok v, t)
  refuses {v : Value} {t : State} :
    (∀ name f u, ¬ word.Calls host dot s name f u) →
      ((Command.mk span [word]).eval host dot .invalid s).Ends host (.ok v, t) →
        ∃ e u, ((Command.mk span (word :: os)).eval host dot last s).Ends host (.error e, u)

namespace Member

variable {options : Options} {mode : MissingKey} {optional : Bool} {v : Value} {name : String}

private theorem ofAttribute_eq_value_iff {found : Option Value} :
    (∃ w, ofAttribute found = .value w) ↔ found.bind Value.asFunc? = none := by
  cases found with
  | none => simp [ofAttribute]
  | some a => cases a <;> simp [ofAttribute, Value.asFunc?]

private theorem ofField_eq_value_iff {target : Value} {found : Option Value} :
    (∃ w, ofField options target name optional found = .value w) ↔
      found = none ∧ ∃ w, options.standIn? target name optional = some w := by
  unfold ofField
  cases found with
  | some w => simp
  | none => cases options.standIn? target name optional <;> simp

private theorem ofEntry_eq_value_iff {target : Value} {entries : Dict Value} :
    (∃ w, ofEntry options mode target entries name optional = .value w) ↔
      (∃ w, entries.get? (.text name) = some w) ∨
        entries.get? (.text name) = none ∧ mode ≠ .error := by
  unfold ofEntry
  cases entries.get? (.text name) with
  | some w => simp
  | none => cases mode <;> simp

private theorem overlooks_of_eq_value {w : Value}
    (h : Member.of options mode v name optional = .value w) :
    v.Overlooks options mode optional name := by
  unfold Member.of at h
  split at h
  · split at h
    · cases h
    · next hmode => exact .absent rfl hmode
  cases hv : v.indirect with
  | record r cell =>
    simp only [hv, ofTarget, method?] at h
    cases hm : r.method? name with
    | some f => simp [hm] at h
    | none =>
      simp only [hm, Option.map_none] at h
      obtain ⟨hf, w, hs⟩ := ofField_eq_value_iff.mp ⟨w, h⟩
      refine .standIn ?_ (by simp [hv]) (hv ▸ hs)
      simp [Value.Lacks, hv, hm, hf]
  | map entries cell =>
    simp only [hv, ofTarget, method?] at h
    obtain ⟨w, he⟩ | ⟨he, hmode⟩ := ofEntry_eq_value_iff.mp ⟨w, h⟩
    · exact .entry hv he
    · exact .missingEntry hv he hmode
  | object id o =>
    simp only [hv] at h
    cases ha : o.attributes? with
    | some attributes =>
      simp only [ha] at h
      exact .ofAttributes hv ha (ofAttribute_eq_value_iff.mp ⟨w, h⟩)
    | none =>
      simp only [ha, ofTarget, method?] at h
      cases hm : o.method? name with
      | some f => simp [hm] at h
      | none =>
        simp only [hm] at h
        obtain ⟨hf, w, hs⟩ := ofField_eq_value_iff.mp ⟨w, h⟩
        refine .standIn ?_ (by simp [hv]) (hv ▸ hs)
        simp [Value.Lacks, hv, ha, hm, hf]
  | presence x found cell =>
    simp only [hv, ofTarget, method?] at h
    obtain ⟨hf, w, hs⟩ := ofField_eq_value_iff.mp ⟨w, h⟩
    refine .standIn ?_ (by simp [hv]) (hv ▸ hs)
    simp [Value.Lacks, hv, hf]
  | _ => simp [hv, ofTarget, method?] at h

private theorem exists_eq_value (h : v.Overlooks options mode optional name) :
    ∃ w, Member.of options mode v name optional = .value w := by
  cases h with
  | absent hv hmode => exact ⟨.invalid, by rw [hv, Member.of, if_neg hmode]⟩
  | ofAttributes hv ha hl =>
    rw [of_of_ne_invalid (by simp [hv]), hv]
    simp only [ha]
    exact ofAttribute_eq_value_iff.mpr hl
  | entry hv he =>
    rw [of_of_ne_invalid (by simp [hv]), hv]
    exact ofEntry_eq_value_iff.mpr (.inl ⟨_, he⟩)
  | missingEntry hv he hmode =>
    rw [of_of_ne_invalid (by simp [hv]), hv]
    exact ofEntry_eq_value_iff.mpr (.inr ⟨he, hmode⟩)
  | standIn hlacks hmap hstand =>
    unfold Value.Lacks at hlacks
    cases hv : v.indirect with
    | record r cell =>
      simp only [hv] at hlacks hstand
      rw [of_of_ne_invalid (by simp [hv]), hv]
      simp only [ofTarget, method?, hlacks.1, Option.map_none]
      exact ofField_eq_value_iff.mpr ⟨hlacks.2, _, hstand⟩
    | map entries cell => exact absurd hv (hmap entries cell)
    | object id o =>
      simp only [hv] at hlacks hstand
      rw [of_of_ne_invalid (by simp [hv]), hv]
      simp only [hlacks.1, ofTarget, method?, hlacks.2.1]
      exact ofField_eq_value_iff.mpr ⟨hlacks.2.2, _, hstand⟩
    | presence x found cell =>
      simp only [hv] at hlacks hstand
      rw [of_of_ne_invalid (by simp [hv]), hv]
      exact ofField_eq_value_iff.mpr ⟨hlacks, _, hstand⟩
    | _ => simp [hv] at hlacks

/-- A name gives a value whatever arguments it has where arguments are overlooked. -/
theorem of_eq_value_iff :
    (∃ w, Member.of options mode v name optional = .value w) ↔
      v.Overlooks options mode optional name := by
  constructor
  · exact fun ⟨w, h⟩ ↦ overlooks_of_eq_value h
  · exact exists_eq_value

end Member

variable {host : Host} {dot : Value} {s t u : State} {o word : Operand} {optional : Bool}
  {path : List String} {v w x : Value} {name : String} {f : Function} {args : List (Walk Value)}
  {last : Value}

/-! ### Words that drop arguments -/

namespace Operand

open Walk

/-- A word that drops its arguments gives a value whatever they are. -/
theorem Drops.ends (h : o.Drops host dot s) (args : List (Walk Value)) (last : Value) :
    ∃ v t, (o.eval host dot args last s).Ends host (.ok v, t) := by
  cases h with
  | @data span =>
    refine ⟨s.data, s.atOperand (.mk span (.identifier "GLOBALS")), ?_⟩
    rw [eval_mk, OperandForm.eval]
    exact .done _
  | @root span v hv =>
    refine ⟨v, s.atOperand (.mk span (.identifier "SELF")), ?_⟩
    rw [eval_mk, OperandForm.eval, identifier, read_bind, State.atOperand_valueOf, hv]
    exact .done _
  | @whole _ _ v t henters => exact ⟨v, t, henters.eval_ends_iff.mpr (.done _)⟩
  | @member _ _ _ _ _ _ _ u henters hcomes hover =>
    obtain ⟨w, hw⟩ := Member.of_eq_value_iff.mpr hover
    refine ⟨w, u, henters.eval_ends_iff.mpr (hcomes.ends_iff.mpr ?_)⟩
    rw [Walk.member, read_bind, hw]
    exact .done _

/-- A word that drops its arguments means no function. -/
theorem Drops.not_calls (h : o.Drops host dot s) : ¬ o.Calls host dot s name f u := by
  intro hcalls
  cases h with
  | data =>
    cases hcalls with
    | named hglobals => exact hglobals rfl
    | member henters => cases henters
  | root =>
    cases hcalls with
    | named _ hself => exact hself rfl
    | member henters => cases henters
  | whole henters =>
    cases hcalls with
    | named => cases henters
    | member henters' hcomes =>
      obtain ⟨rfl, rfl, rfl, rfl⟩ := henters.unique henters'
      cases hcomes
  | member henters hcomes hover =>
    cases hcalls with
    | named => cases henters
    | member henters' hcomes' hcallable =>
      obtain ⟨rfl, rfl, rfl, rfl⟩ := henters.unique henters'
      obtain ⟨rfl, rfl, rfl⟩ := hcomes.unique hcomes'
      obtain ⟨w, hw⟩ := Member.of_eq_value_iff.mpr hover
      cases hw.symm.trans (Member.of_eq_function_iff.mpr hcallable)

/-! ### Words that refuse arguments -/

/-- A word fails with arguments. -/
def Refuses (host : Host) (dot : Value) (s : State) (o : Operand) : Prop :=
  ∀ args last, args ≠ [] ∨ last.isInvalid = false →
    ∃ e t, (o.eval host dot args last s).Ends host (.error e, t)

end Operand

namespace Walk

private theorem noArguments_eq_fail (h : args ≠ [] ∨ last.isInvalid = false) (subject : String) :
    noArguments subject args last = fail (.of (.notAFunction subject)) := by
  cases args <;> simp_all [noArguments]

/-- A call that gives a value has evaluated its arguments, and gives what the function gives for
them. -/
theorem of_call_ends_ok (h : (call host f name args last s).Ends host (.ok v, t)) :
    ∃ vs u, (values args s).Ends host (.ok vs, u) ∧
      (callFunction host f name (vs ++ lastArgument last) u).Ends host (.ok v, t) := by
  rw [call] at h
  obtain ⟨_, z, hcheck, h⟩ := of_bind_ends_ok h
  obtain ⟨vs, u, hvs, hcall⟩ := of_bind_ends_ok h
  cases hc : f.checkArity name (args.length + (lastArgument last).length) with
  | error e =>
    rw [hc] at hcheck
    cases hcheck
  | ok =>
    rw [hc] at hcheck
    cases hcheck
    exact ⟨vs, u, hvs, hcall⟩

end Walk

namespace Operand

open Walk

/-- A word that checks first that there are no arguments refuses them. -/
theorem refuses_of_eval_eq {z : State} {subject : String} {k : Unit → Walk Value}
    (h : ∀ args last, o.eval host dot args last s = (noArguments subject args last >>= k) z) :
    o.Refuses host dot s := by
  intro args last hgiven
  refine ⟨.of (.notAFunction subject), z, ?_⟩
  rw [h, noArguments_eq_fail hgiven]
  exact .done _

private theorem variable_eval {span : Span} (hv : s.valueOf name = .ok v) :
    (Operand.mk span (.variable name [])).eval host dot args last s =
      (noArguments (OperandForm.print false (.variable name [])) args last >>= fun _ ↦ Pure.pure v)
        (s.atOperand (.mk span (.variable name []))) := by
  rw [eval_mk, OperandForm.eval, read_bind, State.atOperand_valueOf, hv]
  rfl

/-- A path that gives a value drops arguments, calls a function or takes no arguments. -/
theorem Enters.cases_of_ends (henters : o.Enters host dot s optional path v t)
    (h : (Walk.path host optional args last v path t).Ends host (.ok w, u)) :
    o.Drops host dot s ∨ (∃ name f u, o.Calls host dot s name f u) ∨ o.Refuses host dot s := by
  by_cases hp : path = []
  · subst hp
    exact .inl (.whole henters)
  obtain ⟨x, name, z, hcomes, h⟩ := comes_of_ends hp h
  rw [Walk.member, read_bind] at h
  cases hm : Member.of z.exec.options z.missingKey x name optional with
  | value y => exact .inl (.member henters hcomes (Member.of_eq_value_iff.mp ⟨y, hm⟩))
  | field y =>
    refine .inr (.inr fun args last hgiven ↦ ⟨.of (.fieldHasArguments name), z, ?_⟩)
    rw [henters.eval_ends_iff, hcomes.ends_iff, Walk.member, read_bind, hm]
    have hnot : ¬ (args.isEmpty && last.isInvalid) := by
      cases args <;> simp_all
    dsimp only
    rw [if_neg hnot]
    exact .done _
  | function value =>
    rw [hm] at h
    obtain ⟨f, y, hresolve, -⟩ := of_bind_ends_ok h
    exact .inr (.inl ⟨name, f, y,
      .member henters hcomes (Member.of_eq_function_iff.mp hm) hresolve⟩)
  | fault cause =>
    rw [hm] at h
    cases h

/-- A word that stands for data and gives a value drops arguments, calls a function or takes no
arguments. -/
theorem cases_of_ends (hword : o.isDatum)
    (h : (o.eval host dot args last s).Ends host (.ok v, t)) :
    o.Drops host dot s ∨ (∃ name f u, o.Calls host dot s name f u) ∨ o.Refuses host dot s := by
  obtain ⟨span, form⟩ := o
  have hconstant {subject : String} {k : Unit → Walk Value}
      (hform : ∀ args last, form.eval host dot span args last =
        (noArguments subject args last >>= k)) : Refuses host dot s (.mk span form) :=
    refuses_of_eval_eq fun args last ↦ by rw [eval_mk, hform]
  cases form with
  | field path optional =>
    have henters : Enters host dot s (.mk span (.field path optional)) optional path dot _ := .field
    exact henters.cases_of_ends (henters.eval_ends_iff.mp h)
  | chain base path =>
    rw [eval_mk, OperandForm.eval] at h
    obtain ⟨x, z, hbase, h⟩ := of_bind_ends_ok h
    exact (Enters.chain hbase).cases_of_ends h
  | «variable» name path =>
    cases hv : s.valueOf name with
    | error e =>
      rw [eval_mk, OperandForm.eval, read_bind, State.atOperand_valueOf, hv] at h
      cases h
    | ok x =>
      by_cases hp : path = []
      · subst hp
        exact .inr (.inr (refuses_of_eval_eq fun args last ↦ variable_eval hv))
      · have henters : Enters host dot s (.mk span (.variable name path)) false path x _ :=
          .variable hv hp
        exact henters.cases_of_ends (henters.eval_ends_iff.mp h)
  | identifier name =>
    obtain rfl | rfl : name = "GLOBALS" ∨ name = "SELF" := by simpa [isDatum, form] using hword
    · exact .inl .data
    · rw [eval_mk, OperandForm.eval, identifier, read_bind, State.atOperand_valueOf] at h
      cases hv : s.valueOf State.rootName with
      | ok x => exact .inl (.root hv)
      | error e =>
        rw [hv] at h
        cases h
  | dot | nil | bool | number | text => exact .inr (.inr (hconstant fun _ _ ↦ rfl))
  | pipe | expr => cases hword

end Operand

/-! ### Commands -/

namespace Command

variable {span : Span} {os : List Operand}

open Walk

/-- Arguments of a word that stands for data are not lost unless the word drops them. -/
theorem takesArguments_iff (hword : word.isDatum) (hgiven : os ≠ [] ∨ last.isInvalid = false) :
    TakesArguments host dot s span word os last ↔ ¬ word.Drops host dot s := by
  constructor
  · intro h hdrops
    obtain ⟨v, t, hends⟩ := hdrops.ends (Operand.arguments host dot os) last
    obtain ⟨name, f, u, vs, w, hcalls, -⟩ := h.passes (v := v) (t := t) (by rwa [Command.eval])
    exact hdrops.not_calls hcalls
  · intro hkeeps
    have hgiven : Operand.arguments host dot os ≠ [] ∨ last.isInvalid = false := by
      cases os with
      | nil => exact .inr (hgiven.resolve_left (· rfl))
      | cons => exact .inl (List.cons_ne_nil _ _)
    refine ⟨fun {v t} h ↦ ?_, fun {v t} hnone h ↦ ?_⟩
    · rw [Command.eval] at h
      obtain hdrops | ⟨name, f, u, hcalls⟩ | hrefuses := Operand.cases_of_ends hword h
      · exact absurd hdrops hkeeps
      · obtain ⟨vs, w, hvs, hcall⟩ := of_call_ends_ok (hcalls.eval_ends_iff.mp h)
        exact ⟨name, f, u, vs, w, hcalls, values_ends_iff.mp hvs, hcall⟩
      · obtain ⟨e, u, hends⟩ := hrefuses _ _ hgiven
        cases hends.unique h
    · rw [Command.eval] at h
      obtain hdrops | ⟨name, f, u, hcalls⟩ | hrefuses := Operand.cases_of_ends hword h
      · exact absurd hdrops hkeeps
      · exact absurd hcalls (hnone name f u)
      · rw [Command.eval]
        exact hrefuses _ _ hgiven

/-- An object with a method that negates its argument. -/
def negator : Value :=
  .object 0 (.host
    { typeName := "Negator", text := none, empty := none, items := none, attributes := none,
      fields := [], methods := [("Not", .ofBuiltin .not)] })

/-- The path of a name on the dot. -/
def onDot (name : String) : Operand := .mk ⟨0, 0⟩ (.field [name] false)

/-- A method is called with the argument. -/
theorem takesArguments_negator :
    (onDot "Not").isDatum ∧
      TakesArguments .empty negator .blank ⟨0, 0⟩ (onDot "Not") [.mk ⟨0, 0⟩ (.bool true)] .invalid ∧
      ∃ t, ((Command.mk ⟨0, 0⟩ [onDot "Not", .mk ⟨0, 0⟩ (.bool true)]).eval .empty negator .invalid
        .blank).Ends .empty (.ok (.bool false), t) := by
  have hcalls : (onDot "Not").Calls .empty negator .blank "Not" (.ofBuiltin .not) _ :=
    .member .field .last rfl (.done _)
  have hkeeps : ¬ (onDot "Not").Drops .empty negator .blank := fun hdrops ↦ hdrops.not_calls hcalls
  exact ⟨rfl, (takesArguments_iff rfl (.inl (List.cons_ne_nil _ _))).mpr hkeeps, _, .value rfl⟩

/-- A map of one entry. -/
def entryMap : Value := .map ⟨[(.text "A", .int 1)]⟩ none

/-- The value under a key of a map is given whatever the arguments are. -/
theorem not_takesArguments_entry :
    (∃ t, ((Command.mk ⟨0, 0⟩ [onDot "A", .mk ⟨0, 0⟩ (.text "x")]).eval .empty entryMap .invalid
        .blank).Ends .empty (.ok (.int 1), t)) ∧
      ¬ TakesArguments .empty entryMap .blank ⟨0, 0⟩ (onDot "A") [.mk ⟨0, 0⟩ (.text "x")]
        .invalid := by
  have hends : ((Command.mk ⟨0, 0⟩ [onDot "A", .mk ⟨0, 0⟩ (.text "x")]).eval .empty entryMap
      .invalid .blank).Ends .empty (.ok (.int 1), State.blank.atOperand (onDot "A")) := .value rfl
  have hdrops : (onDot "A").Drops .empty entryMap .blank := .member .field .last (.entry rfl rfl)
  refine ⟨⟨_, hends⟩, ?_⟩
  intro h
  obtain ⟨name, f, u, vs, w, hcalls, -⟩ := h.passes hends
  exact hdrops.not_calls hcalls

end Command

end TextTemplate
