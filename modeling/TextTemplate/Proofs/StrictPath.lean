import TextTemplate.Proofs.Word

/-!
# Paths where missing keys are errors

A path into plain data gives what it leads to (`Value.follow?`) or fails. Where missing keys are
errors and nothing stands in for missing fields but the empty text, no path gives no value, and the
paths that fail for a missing key are those whose first name that leads nowhere is looked up in a
map (`Operand.strict_of_enters`).
-/

set_option autoImplicit false

namespace TextTemplate

/-- Plain data: scalars, and lists, maps, records without methods and optionals of plain data. There
is no absent value in it. -/
inductive Value.IsData : Value → Prop where
  | nil : IsData .nil
  | bool (b : Bool) : IsData (.bool b)
  | int (n : Int64) : IsData (.int n)
  | uint (n : UInt64) : IsData (.uint n)
  | float (x : Binary64) : IsData (.float x)
  | text (s : String) : IsData (.text s)
  | list {items : List Value} {cell : Option Nat} :
      (∀ v ∈ items, IsData v) → IsData (.list items cell)
  | map {entries : Dict Value} {cell : Option Nat} :
      (∀ entry ∈ entries.entries, IsData entry.2) → IsData (.map entries cell)
  | record {r : Record Value Function} {cell : Option Nat} :
      r.methods = [] → (∀ field ∈ r.fields, IsData field.2) → IsData (.record r cell)
  | some {v : Value} {cell : Option Nat} : IsData v → IsData (.some v cell)

/-- The field of a record or the entry of a map, through optionals. -/
def Value.part? (v : Value) (name : String) : Option Value :=
  match v.indirect with
  | .record r _ => r.field? name
  | .map entries _ => entries.get? (.text name)
  | _ => .none

/-- The value that a path leads to. -/
def Value.follow? (v : Value) : List String → Option Value
  | [] => .some v
  | name :: rest => (v.part? name).bind fun w ↦ w.follow? rest

/-- The first name of a path that leads nowhere, with the value it is looked up in. -/
inductive Value.StopsAt : Value → List String → Value → String → Prop where
  | here {v : Value} {name : String} {rest : List String} :
      v.part? name = .none → StopsAt v (name :: rest) v name
  | later {v w x : Value} {name last : String} {rest : List String} :
      v.part? name = .some w → StopsAt w rest x last → StopsAt v (name :: rest) x last

/-- Whether a value is a map, through optionals. -/
def Value.isMap (v : Value) : Bool :=
  match v.indirect with
  | .map .. => true
  | _ => false

/-- Missing keys are errors, and the host has nothing to stand in for missing fields. -/
structure State.Strict (s : State) : Prop where
  keys : s.missingKey = .error
  fields : s.exec.options.missingField = none

/-- What is promised of a path into data where missing keys are errors. Without arguments it gives
what it leads to; whatever it gives is this, or the empty text in place of a missing field; and it
fails for a missing key where the first name that leads nowhere is looked up in a map. -/
structure Value.StrictOutcome (v : Value) (path : List String) (options : Options)
    (optional : Bool) (args : List (Walk Value)) (last : Value) (r : Outcome Value) : Prop where
  returned : r.Returned
  found {w : Value} : args = [] → last = .invalid → v.follow? path = .some w → r = .ok w
  present : r ≠ .ok .invalid
  stored {w : Value} : r = .ok w →
    v.follow? path = .some w ∨ optional = true ∧ options.requireFields = false ∧ w = .text ""
  missing {name : String} :
    r = .error (.of (.missingKey name)) ↔ ∃ x, v.StopsAt path x name ∧ x.isMap

/-- What a name means on data where missing keys are errors. -/
inductive Member.Strict (options : Options) (optional : Bool) (v : Value) (name : String) :
    Member → Prop where
  | entry {w : Value} : v.isMap → v.part? name = some w → Strict options optional v name (.value w)
  | field {w : Value} :
      ¬ v.isMap → v.part? name = some w → Strict options optional v name (.field w)
  | missing :
      v.isMap → v.part? name = none → Strict options optional v name (.fault (.missingKey name))
  | standIn : ¬ v.isMap → v.part? name = none → optional = true → options.requireFields = false →
      Strict options optional v name (.value (.text ""))
  | fault {cause : Cause} : ¬ v.isMap → v.part? name = none → (∀ key, cause ≠ .missingKey key) →
      Strict options optional v name (.fault cause)

variable {host : Host} {dot : Value} {s t : State} {o : Operand} {optional : Bool}
  {path : List String} {v w x : Value} {name : String} {args : List (Walk Value)} {last : Value}
  {options : Options}

namespace Value

private theorem IsData.indirect (h : v.IsData) : v.indirect.IsData := by
  induction h with
  | nil => exact .nil
  | bool b => exact .bool b
  | int n => exact .int n
  | uint n => exact .uint n
  | float x => exact .float x
  | text s => exact .text s
  | list hitems => exact .list hitems
  | map hentries => exact .map hentries
  | record hmethods hfields => exact .record hmethods hfields
  | some _ ih => exact ih

private theorem IsData.ne_invalid (h : v.IsData) : v ≠ .invalid := by
  rintro rfl
  cases h

/-- The parts of plain data are plain data. -/
theorem IsData.part (h : v.IsData) (hp : v.part? name = .some w) : w.IsData := by
  have hi := h.indirect
  unfold part? at hp
  split at hp
  · next r cell hv =>
    rw [hv] at hi
    cases hi with
    | record _ hfields => exact hfields _ (mem_of_lookup_eq_some hp)
  · next entries cell hv =>
    rw [hv] at hi
    cases hi with
    | map hentries =>
      obtain ⟨entry, hfind, rfl⟩ := Option.map_eq_some_iff.mp hp
      exact hentries entry (List.mem_of_find?_eq_some hfind)
  · cases hp

end Value

namespace Member

private theorem of_strict (hv : v.IsData) (hfields : options.missingField = none) :
    Strict options optional v name (Member.of options .error v name optional) := by
  have hd := hv.indirect
  rw [of_of_ne_invalid hd.ne_invalid]
  cases hi : v.indirect with
  | record r cell =>
    rw [hi] at hd
    cases hd with
    | record hmethods _ =>
      have hmap : ¬ v.isMap := by simp [Value.isMap, hi]
      have hpart : v.part? name = r.field? name := by simp [Value.part?, hi]
      have hm : r.method? name = none := by simp [Record.method?, hmethods]
      simp only [ofTarget, method?, hm, Option.map_none]
      cases hf : r.field? name with
      | some w => exact .field hmap (hpart.trans hf)
      | none =>
        simp only [ofField, Options.standIn?, hfields, Option.bind_none]
        by_cases hlenient : optional = true ∧ options.requireFields = false
        · rw [if_pos (by simp [hlenient])]
          exact .standIn hmap (hpart.trans hf) hlenient.1 hlenient.2
        · rw [if_neg (by simpa using hlenient)]
          exact .fault hmap (hpart.trans hf) (by simp)
  | map entries cell =>
    have hmap : v.isMap := by simp [Value.isMap, hi]
    have hpart : v.part? name = entries.get? (.text name) := by simp [Value.part?, hi]
    simp only [ofTarget, method?, ofEntry]
    cases he : entries.get? (.text name) with
    | some w => exact .entry hmap (hpart.trans he)
    | none => exact .missing hmap (hpart.trans he)
  | object id o =>
    rw [hi] at hd
    cases hd
  | presence w found cell =>
    rw [hi] at hd
    cases hd
  | _ => exact .fault (by simp [Value.isMap, hi]) (by simp [Value.part?, hi]) (by simp)

end Member

namespace Value

private theorem follow?_singleton (v : Value) (name : String) :
    v.follow? [name] = v.part? name := by
  simp [follow?]

private theorem exists_stopsAt_cons_iff {rest : List String} {last : String}
    (h : v.part? name = .none) :
    (∃ x, v.StopsAt (name :: rest) x last ∧ x.isMap) ↔ last = name ∧ v.isMap := by
  constructor
  · rintro ⟨x, hstops, hmap⟩
    cases hstops with
    | here => exact ⟨rfl, hmap⟩
    | later hp => cases h.symm.trans hp
  · rintro ⟨rfl, hmap⟩
    exact ⟨v, .here h, hmap⟩

private theorem stopsAt_cons_iff_of_some {rest : List String} {last : String}
    (h : v.part? name = .some w) :
    v.StopsAt (name :: rest) x last ↔ w.StopsAt rest x last := by
  constructor
  · intro hstops
    cases hstops with
    | here hp => cases h.symm.trans hp
    | later hp hrest =>
      cases h.symm.trans hp
      exact hrest
  · exact .later h

private theorem not_stopsAt_nil {last : String} : ¬ v.StopsAt [] x last := nofun

end Value

namespace Value.StrictOutcome

/-- A part of data, as the outcome of its name. -/
theorem of_part (hv : v.IsData) (hp : v.part? name = .some w) :
    StrictOutcome v [name] options optional args last (.ok w) where
  returned := trivial
  found _ _ hfollow := by
    rw [follow?_singleton, hp] at hfollow
    rw [Option.some.inj hfollow]
  present := by simpa using (hv.part hp).ne_invalid
  stored := by
    rintro _ ⟨⟩
    exact .inl ((follow?_singleton v name).trans hp)
  missing := by simp [stopsAt_cons_iff_of_some hp, not_stopsAt_nil]

/-- The outcome of names after one that leads to a part. -/
theorem cons {rest : List String} {r : Outcome Value} (hp : v.part? name = .some w)
    (h : StrictOutcome w rest options optional args last r) :
    StrictOutcome v (name :: rest) options optional args last r := by
  have hfollow : v.follow? (name :: rest) = w.follow? rest := by simp [follow?, hp]
  exact
    { returned := h.returned
      found := fun ha hl hw ↦ h.found ha hl (hfollow.symm.trans hw)
      present := h.present
      stored := fun hr ↦ (h.stored hr).imp_left hfollow.trans
      missing := fun {key} ↦ by simpa only [stopsAt_cons_iff_of_some hp] using h.missing }

/-- The outcome of names after one that the empty text stands in for. -/
theorem skip {rest : List String} {r : Outcome Value} (hrest : rest ≠ [])
    (hp : v.part? name = .none) (hmap : ¬ v.isMap)
    (h : StrictOutcome (.text "") rest options optional args last r) :
    StrictOutcome v (name :: rest) options optional args last r := by
  obtain ⟨next, rest, rfl⟩ := List.exists_cons_of_ne_nil hrest
  have hnext : (Value.text "").part? next = .none := rfl
  have htext : ¬ (Value.text "").isMap := nofun
  exact
    { returned := h.returned
      found := by simp [follow?, hp]
      present := h.present
      stored := fun hr ↦ (h.stored hr).imp_left fun hw ↦ by simp [follow?, hnext] at hw
      missing := fun {key} ↦ by
        simp [h.missing, exists_stopsAt_cons_iff hp, exists_stopsAt_cons_iff hnext, htext, hmap] }

/-- The outcome of a path whose first name leads nowhere: an error. -/
theorem of_error {rest : List String} {e : EvalError} (hp : v.part? name = .none)
    (he : ∀ key, e = .of (.missingKey key) ↔ key = name ∧ v.isMap) :
    StrictOutcome v (name :: rest) options optional args last (.error e) where
  returned := trivial
  found _ _ hfollow := by simp [follow?, hp] at hfollow
  present := nofun
  stored := nofun
  missing := by
    intro key
    simp [exists_stopsAt_cons_iff hp, he]

end Value.StrictOutcome

namespace Walk

open Value

/-- A name on data gives what is promised of it. -/
theorem member_strict (host : Host) (hs : s.Strict) (hv : v.IsData) (optional : Bool)
    (name : String)
    (args : List (Walk Value)) (last : Value) :
    ∃ r, member host v name optional args last s = .done (r, s) ∧
      StrictOutcome v [name] s.exec.options optional args last r := by
  have hm : Member.Strict s.exec.options optional v name
      (Member.of s.exec.options .error v name optional) := Member.of_strict hv hs.fields
  rw [member, read_bind, hs.keys]
  generalize Member.of s.exec.options .error v name optional = m at hm
  cases hm with
  | entry _ hp => exact ⟨_, rfl, .of_part hv hp⟩
  | field hmap hp =>
    dsimp only
    split
    · exact ⟨_, rfl, .of_part hv hp⟩
    · next hgiven =>
      refine ⟨_, rfl, trivial, ?_, by simp, by simp, ?_⟩
      · rintro _ rfl rfl
        exact absurd rfl hgiven
      · simp [stopsAt_cons_iff_of_some hp, not_stopsAt_nil, EvalError.of]
  | missing hmap hp =>
    exact ⟨_, rfl, .of_error hp fun key ↦ by simp [EvalError.of, hmap, eq_comm]⟩
  | standIn hmap hp hoptional hrequire =>
    refine ⟨_, rfl, trivial, ?_, by simp, ?_, ?_⟩
    · intro _ _ _ hfollow
      simp [follow?, hp] at hfollow
    · rintro _ ⟨⟩
      exact .inr ⟨hoptional, hrequire, rfl⟩
    · simp [exists_stopsAt_cons_iff hp, hmap]
  | fault hmap hp hcause =>
    refine ⟨_, rfl, .of_error hp fun key ↦ ?_⟩
    simp [EvalError.of, hmap, hcause key]

/-- A path into data gives what is promised of it. -/
theorem path_strict (host : Host) (hs : s.Strict) (hv : v.IsData) (hpath : path ≠ [])
    (optional : Bool) (args : List (Walk Value)) (last : Value) :
    ∃ r, Walk.path host optional args last v path s = .done (r, s) ∧
      StrictOutcome v path s.exec.options optional args last r := by
  induction path generalizing v with
  | nil => exact absurd rfl hpath
  | cons name rest ih =>
    cases rest with
    | nil => exact member_strict host hs hv optional name args last
    | cons next rest =>
      have hrest : next :: rest ≠ [] := List.cons_ne_nil _ _
      have hpath : path host optional args last v (name :: next :: rest) =
        (member host v name optional [] .invalid >>= fun w ↦
          path host optional args last w (next :: rest)) := rfl
      obtain ⟨r, hr, h⟩ := member_strict host hs hv optional name [] .invalid
      rw [hpath, bind_run, hr]
      cases hp : v.part? name with
      | some w =>
        cases h.found rfl rfl ((follow?_singleton v name).trans hp)
        obtain ⟨r, hr, h⟩ := ih (hv.part hp) hrest
        exact ⟨r, hr, h.cons hp⟩
      | none =>
        have hmissing {key : String} :
            r = .error (.of (.missingKey key)) ↔ key = name ∧ v.isMap := by
          simp [h.missing, exists_stopsAt_cons_iff hp]
        cases r with
        | ok w =>
          -- The empty text stands in for a field, and the other names are looked up in it.
          obtain hw | ⟨_, _, rfl⟩ := h.stored rfl
          · simp [follow?, hp] at hw
          have hmap : ¬ v.isMap := fun hmap ↦ nomatch hmissing.mpr ⟨rfl, hmap⟩
          obtain ⟨r, hr, h⟩ := ih (.text "") hrest
          exact ⟨r, hr, h.skip hrest hp hmap⟩
        | error e => exact ⟨_, rfl, .of_error hp fun key ↦ by simp [← hmissing]⟩
        | panic message => exact h.returned.elim

end Walk

namespace Operand

private theorem Enters.exec (h : o.Enters host dot s optional path v t) :
    t.exec = s.exec ∧ t.missingKey = s.missingKey := by
  cases h with
  | field | «variable» => exact ⟨rfl, rfl⟩
  | @chain span base _ _ u hbase =>
    have hcalm : (base.argument host dot).Calm host anyCall := base.argument_calm
    have hlevel : Level host (s.atOperand (.mk span (.chain base path))) u :=
      (hcalm _ _ (.refl _)).ends Walk.start_meets hbase
    exact ⟨hlevel.exec, (congrArg State.missingKey hlevel.outline :)⟩

/-- A path into data, where missing keys are errors, ends with what is promised of it. -/
theorem strict_of_enters (h : o.Enters host dot s optional path v t) (hs : s.Strict)
    (hv : v.IsData) (hpath : path ≠ []) (args : List (Walk Value)) (last : Value) :
    ∃ r, (o.eval host dot args last s).Ends host (r, t) ∧
      v.StrictOutcome path s.exec.options optional args last r := by
  obtain ⟨hexec, hkeys⟩ := h.exec
  have ht : t.Strict := ⟨hkeys.trans hs.keys, hexec ▸ hs.fields⟩
  obtain ⟨r, hr, hpromised⟩ := Walk.path_strict host ht hv hpath optional args last
  exact ⟨r, h.eval_ends_iff.mpr (hr ▸ .done _), hexec ▸ hpromised⟩

/-- A map with a record, which has a map without the key `D`. -/
def nestedData : Value :=
  .map ⟨[(.text "A", .some (.record ⟨"R", [("B", .map ⟨[(.text "C", .int 1)]⟩ none)], []⟩ none)
    none)]⟩ none

/-- A render where missing keys are errors. -/
def strictState : State := { State.blank with missingKey := .error }

/-- The path of the missing key. -/
def missingPath : Operand := .mk ⟨0, 0⟩ (.field ["A", "B", "D"] false)

private theorem nestedData_isData : nestedData.IsData := by
  simp only [nestedData]
  refine .map (List.forall_mem_singleton.mpr (.some (.record rfl ?_)))
  exact List.forall_mem_singleton.mpr (.map (List.forall_mem_singleton.mpr (.int 1)))

/-- The path fails for the key. -/
theorem strict_of_enters_nested :
    missingPath.Enters .empty nestedData strictState false ["A", "B", "D"] nestedData
        (strictState.atOperand missingPath) ∧
      strictState.Strict ∧ nestedData.IsData ∧
      (missingPath.eval .empty nestedData [] .invalid strictState).Ends .empty
        (.error (.of (.missingKey "D")), strictState.atOperand missingPath) := by
  have hs : strictState.Strict := ⟨rfl, rfl⟩
  have henters : missingPath.Enters .empty nestedData strictState false ["A", "B", "D"] nestedData
      (strictState.atOperand missingPath) := .field
  obtain ⟨r, hends, hpromised⟩ :=
    strict_of_enters henters hs nestedData_isData (List.cons_ne_nil _ _) [] .invalid
  have hstops : nestedData.StopsAt ["A", "B", "D"] (.map ⟨[(.text "C", .int 1)]⟩ none) "D" :=
    .later rfl (.later rfl (.here rfl))
  cases hpromised.missing.mpr ⟨_, hstops, rfl⟩
  exact ⟨henters, hs, nestedData_isData, hends⟩

end Operand

end TextTemplate
