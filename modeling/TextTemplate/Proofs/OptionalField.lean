import TextTemplate.Proofs.Tasks

/-!
# Optional fields

An optional path gives the empty text where a name is missing, unless there are names after it
(`Walk.tolerates_iff`): these are looked up in the text, which has no fields. Paths that miss no
name give the same whether they are optional or not.
-/

set_option autoImplicit false

namespace TextTemplate

/-- A value has neither a method, nor a field or an entry of a name. -/
def Value.Lacks (v : Value) (name : String) : Prop :=
  match v.indirect with
  | .record r _ => r.method? name = none ∧ r.field? name = none
  | .map entries _ => entries.get? (.text name) = none
  | .object _ o => o.attributes? = none ∧ o.method? name = none ∧ o.field? name = none
  | .presence v found _ => Member.ofPresence v found name = none
  | _ => False

/-- Optional fields may be missing, and so may the keys of maps. -/
structure State.Lenient (s : State) : Prop where
  fields : s.exec.options.requireFields = false
  keys : s.missingKey = .absent

namespace Walk

/-- The evaluation of a path on the dot ends with a value or in another way. -/
def PathEnds (host : Host) (optional : Bool) (s : State) (dot : Value) (path : List String)
    (r : Outcome Value × State) : Prop :=
  ((OperandForm.field path optional).eval host dot ⟨0, 0⟩ [] .invalid s).Ends host r

/-- A path comes in a state to a name that is missing, with the names after it. -/
inductive Misses (host : Host) : State → Value → List String → List String → State → Prop where
  | here {s : State} {v : Value} {name : String} {rest : List String} :
      v.Lacks name → Misses host s v (name :: rest) rest s
  | later {s t u : State} {v w : Value} {name : String} {names rest : List String} :
      ¬ v.Lacks name → (member host v name false [] .invalid s).Ends host (.ok w, t) →
        Misses host t w names rest u → Misses host s v (name :: names) rest u

/-- What is promised of an optional path: it gives the empty text where a name is missing, and
whatever the path gives that is not optional where none is. -/
structure Tolerates (host : Host) (s : State) (dot : Value) (path : List String) : Prop where
  missing {rest : List String} {t : State} :
    Misses host s dot path rest t → PathEnds host true s dot path (.ok (.text ""), t)
  present : (∀ rest t, ¬ Misses host s dot path rest t) →
    ∀ r, PathEnds host true s dot path r ↔ PathEnds host false s dot path r
  succeeds {v : Value} {t : State} : PathEnds host false s dot path (.ok v, t) →
    ∃ w u, PathEnds host true s dot path (.ok w, u)

end Walk

namespace Member

variable {options : Options} {mode : MissingKey} {v : Value} {name : String}

/-- A name that is not missing means the same, whether it is optional or not. -/
theorem of_optional (h : ¬ v.Lacks name) :
    Member.of options mode v name true = Member.of options mode v name false := by
  unfold Member.of
  split
  · rfl
  unfold Value.Lacks at h
  cases hv : v.indirect with
  | record r cell =>
    rw [hv] at h
    simp only [ofTarget, method?]
    cases hm : r.method? name with
    | some f => rfl
    | none =>
      cases hf : r.field? name with
      | some w => rfl
      | none => exact (h ⟨hm, hf⟩).elim
  | map entries cell =>
    rw [hv] at h
    simp only [ofTarget, method?, ofEntry]
    cases he : entries.get? (.text name) with
    | some w => rfl
    | none => exact (h he).elim
  | object id o =>
    rw [hv] at h
    dsimp only
    cases ha : o.attributes? with
    | some attributes => rfl
    | none =>
      simp only [ofTarget, method?]
      cases hm : o.method? name with
      | some f => rfl
      | none =>
        cases hf : o.field? name with
        | some w => rfl
        | none => exact (h ⟨ha, hm, hf⟩).elim
  | presence w found cell =>
    rw [hv] at h
    simp only [ofTarget, method?]
    cases hp : ofPresence w found name with
    | some x => rfl
    | none => exact (h hp).elim
  | _ => rfl

/-- The empty text stands in for a name that is missing. -/
theorem of_lacks (h : v.Lacks name) (hfields : options.requireFields = false) :
    Member.of options .absent v name true = .value (.text "") := by
  have hstand (target : Value) : options.standIn? target name true = some (.text "") := by
    rw [Options.standIn?, hfields]
    rfl
  unfold Member.of
  split
  · exact h.elim
  unfold Value.Lacks at h
  cases hv : v.indirect with
  | record r cell =>
    rw [hv] at h
    simp only [ofTarget, method?, ofField, h.1, h.2, hstand, Option.map_none]
  | map entries cell =>
    rw [hv] at h
    simp only [ofTarget, method?, ofEntry, h, hstand, Option.getD_some]
  | object id o =>
    rw [hv] at h
    simp only [ofTarget, method?, ofField, h.1, h.2.1, h.2.2, hstand]
  | presence w found cell =>
    rw [hv] at h
    simp only [ofTarget, method?, ofField, h, hstand]
  | _ =>
    rw [hv] at h
    exact h.elim

end Member

namespace Walk

variable {host : Host} {s t u : State} {v w : Value} {name : String} {names rest : List String}
  {optional : Bool} {r : Outcome Value × State}

/-! ### One name -/

private theorem member_of_not_lacks (h : ¬ v.Lacks name) (s : State) :
    member host v name true [] .invalid s = member host v name false [] .invalid s := by
  rw [member, member, read_bind, read_bind, Member.of_optional h]

private theorem member_of_lacks (h : v.Lacks name) (hs : s.Lenient) :
    member host v name true [] .invalid s = .done (.ok (.text ""), s) := by
  rw [member, read_bind, hs.keys, Member.of_lacks h hs.fields]
  rfl

/-- A text has no fields. -/
theorem member_text (text : String) (s : State) :
    member host (.text text) name optional [] .invalid s =
      .done (.error (.of (.noSuchField name "string")), s) := rfl

/-- What a name gives is found without a change of the level. -/
theorem lenient_of_member (hs : s.Lenient)
    (h : (member host v name optional [] .invalid s).Ends host (.ok w, t)) : t.Lenient := by
  have hcalm : (member host v name optional [] .invalid).Calm host anyCall :=
    member_calm (List.forall_mem_nil _) v name optional _
  have hlevel : Level host s t := (hcalm s s (.refl s)).ends start_meets h
  have hkeys : t.missingKey = s.missingKey := (congrArg State.missingKey hlevel.outline :)
  exact ⟨hlevel.exec ▸ hs.fields, hkeys.trans hs.keys⟩

/-! ### Names one after the other -/

private theorem bind_pure {α : Type} (m : Walk α) : (m >>= fun a ↦ Pure.pure a) = m := by
  funext s
  calc (m >>= fun a ↦ Pure.pure a) s = (m s).bind Run.done := by
        rw [bind_run]
        congr
        funext ⟨o, u⟩
        cases o with
        | ok _ | error _ | panic _ => rfl
    _ = m s := Run.bind_done (m s)

private theorem path_cons (v : Value) (name : String) (names : List String) :
    path host optional [] .invalid v (name :: names) =
      (member host v name optional [] .invalid >>= fun w ↦
        path host optional [] .invalid w names) := by
  cases names with
  | nil => exact (bind_pure _).symm
  | cons => rfl

/-- Where a name is missing, an optional path goes on with the empty text. -/
theorem Misses.path_ends (h : Misses host s v names rest t) (hs : s.Lenient)
    (hr : (path host true [] .invalid (.text "") rest t).Ends host r) :
    (path host true [] .invalid v names s).Ends host r := by
  induction h with
  | here hlacks =>
    rw [path_cons, bind_run, member_of_lacks hlacks hs]
    exact hr
  | later hnot hmember _ ih =>
    rw [path_cons, bind_run, member_of_not_lacks hnot]
    exact hmember.bind (ih (lenient_of_member hs hmember) hr)

/-- A path that misses no name is the same whether it is optional or not. -/
theorem path_ends_iff (h : ∀ rest t, ¬ Misses host s v names rest t) :
    (path host true [] .invalid v names s).Ends host r ↔
      (path host false [] .invalid v names s).Ends host r := by
  induction names generalizing s v with
  | nil => rfl
  | cons name names ih =>
    have hnot : ¬ v.Lacks name := fun hlacks ↦ h _ _ (.here hlacks)
    have hnext {w : Value} {u : State}
        (hmember : (member host v name false [] .invalid s).Ends host (.ok w, u)) :
        ∀ rest t, ¬ Misses host u w names rest t :=
      fun _ _ hlater ↦ h _ _ (.later hnot hmember hlater)
    rw [path_cons, path_cons, bind_run, bind_run, member_of_not_lacks hnot]
    constructor
    · intro hends
      obtain ⟨⟨o, u⟩, hmember, hrest⟩ := hends.of_bind
      cases o with
      | ok w => exact hmember.bind ((ih (hnext hmember)).mp hrest)
      | error _ | panic _ => exact hmember.bind hrest
    · intro hends
      obtain ⟨⟨o, u⟩, hmember, hrest⟩ := hends.of_bind
      cases o with
      | ok w => exact hmember.bind ((ih (hnext hmember)).mpr hrest)
      | error _ | panic _ => exact hmember.bind hrest

/-- A name after one that is missing is looked up in the empty text, which has no fields. -/
theorem Misses.error_ends {next : String} (h : Misses host s v names (next :: rest) t)
    (hs : s.Lenient) :
    PathEnds host true s v names (.error (.of (.noSuchField next "string")), t) := by
  apply h.path_ends hs
  rw [path_cons, bind_run, member_text]
  exact .done _

private theorem Misses.text_ends (h : Misses host s v names [] t) (hs : s.Lenient) :
    PathEnds host true s v names (.ok (.text ""), t) := h.path_ends hs (.done _)

/-- Optional paths give what is promised of them unless they go on after a name that is missing. -/
theorem tolerates_iff (hs : s.Lenient) :
    Tolerates host s v names ↔ ∀ rest t, Misses host s v names rest t → rest = [] := by
  constructor
  · intro h rest t hmisses
    cases rest with
    | nil => rfl
    | cons next rest =>
      have hends := (hmisses.error_ends hs).unique (h.missing hmisses)
      cases hends
  · intro h
    have htext {rest : List String} {t : State} (hmisses : Misses host s v names rest t) :
        PathEnds host true s v names (.ok (.text ""), t) := by
      cases h rest t hmisses
      exact hmisses.text_ends hs
    refine ⟨htext, fun hnone r ↦ path_ends_iff hnone, ?_⟩
    intro w t hends
    by_cases hmisses : ∃ rest u, Misses host s v names rest u
    · obtain ⟨_, u, hmisses⟩ := hmisses
      exact ⟨_, u, htext hmisses⟩
    · have hnone : ∀ rest u, ¬ Misses host s v names rest u :=
        fun rest u hm ↦ hmisses ⟨rest, u, hm⟩
      exact ⟨w, t, (path_ends_iff hnone).mpr hends⟩

/-- A map with an empty one under the key `A`. -/
def nestedMap : Value := .map ⟨[(.text "A", .map ⟨[]⟩ none)]⟩ none

/-- A key may be missing from the last map. -/
theorem tolerates_last : State.blank.Lenient ∧ Tolerates .empty .blank nestedMap ["A", "B"] := by
  have hs : State.blank.Lenient := ⟨rfl, rfl⟩
  refine ⟨hs, (tolerates_iff hs).mpr ?_⟩
  intro rest t h
  cases h with
  | here hlacks => exact nomatch hlacks
  | later _ _ h =>
    cases h with
    | here => rfl
    | later _ _ h => cases h

/-- If one is missing from the first map, then the path fails because it is optional. -/
theorem not_tolerates_first :
    PathEnds .empty false .blank (.map ⟨[]⟩ none) ["A", "B"] (.ok .invalid, .blank) ∧
      PathEnds .empty true .blank (.map ⟨[]⟩ none) ["A", "B"]
        (.error (.of (.noSuchField "B" "string")), .blank) ∧
      ¬ Tolerates .empty .blank (.map ⟨[]⟩ none) ["A", "B"] := by
  have hmisses : Misses .empty .blank (.map ⟨[]⟩ none) ["A", "B"] ["B"] .blank := .here rfl
  have hends := hmisses.error_ends ⟨rfl, rfl⟩
  refine ⟨.value rfl, hends, ?_⟩
  intro h
  have htext := h.missing hmisses
  cases hends.unique htext

end Walk

end TextTemplate
