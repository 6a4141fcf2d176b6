import TextTemplate.Program.Call
import TextTemplate.Proofs.ByteOrder
import TextTemplate.Proofs.Evaluation
import TextTemplate.Proofs.KeyOrder

/-!
# Comparison as one order

The six functions of comparison speak of one order (`Compare.relations_coherent`): that of the
integers, whichever kind they are of, and that of the bytes of texts. Equality and order are two
tables of cases, which convert a signed integer where they meet an unsigned one, and agree on
numbers and texts (`Comparable.agree_of_integers`, `Comparable.agree_of_texts`).
-/

set_option autoImplicit false

namespace TextTemplate.Compare

/-- The kinds of values that can be compared with each other. -/
inductive Kind where
  | truth
  | integer
  | float
  | text

/-- The kind of a value that can be compared, through optionals. -/
def kind? (v : Value) : Option Kind :=
  match v.indirect with
  | .bool _ => some .truth
  | .int _ | .uint _ => some .integer
  | .float _ => some .float
  | .text _ => some .text
  | _ => none

/-- What two values can be asked for. -/
inductive Relation where
  | eq
  | ne
  | lt
  | le
  | gt
  | ge

namespace Relation

/-- The function that tells whether a relation holds. -/
def builtin : Relation → Builtin
  | eq => .eq
  | ne => .ne
  | lt => .lt
  | le => .le
  | gt => .gt
  | ge => .ge

/-- The orders of two values for which a relation holds. -/
def test : Relation → Ordering → Bool
  | eq => Ordering.isEq
  | ne => Ordering.isNe
  | lt => Ordering.isLT
  | le => Ordering.isLE
  | gt => Ordering.isGT
  | ge => Ordering.isGE

/-- A call of the function of a relation. -/
def call (host : Host) (r : Relation) (args : List Value) : Plain Results :=
  (Function.ofBuiltin r.builtin).plainProgram host args

/-- Two values are of a kind that a relation is about. Truth values have no order. -/
def Compares (r : Relation) (u v : Value) : Prop :=
  ∃ k, kind? u = some k ∧ kind? v = some k ∧ (k = .truth → r = .eq ∨ r = .ne)

end Relation

/-- The answer to a comparison. -/
def answer (b : Bool) : Plain Results := .done (.single (.bool b))

/-- A comparison says that a relation holds. -/
def Holds (host : Host) (r : Relation) (u v : Value) : Prop := r.call host [u, v] = answer true

/-- The relations of three values are those of one order. -/
structure Coherent (host : Host) (u v w : Value) : Prop where
  trichotomy :
    (Holds host .lt u v ∧ ¬ Holds host .eq u v ∧ ¬ Holds host .gt u v) ∨
    (¬ Holds host .lt u v ∧ Holds host .eq u v ∧ ¬ Holds host .gt u v) ∨
    (¬ Holds host .lt u v ∧ ¬ Holds host .eq u v ∧ Holds host .gt u v)
  trans (r : Relation) : r ≠ .ne → Holds host r u v → Holds host r v w → Holds host r u w
  ne_iff : Holds host .ne u v ↔ ¬ Holds host .eq u v
  le_iff : Holds host .le u v ↔ Holds host .lt u v ∨ Holds host .eq u v
  ge_eq : Relation.call host .ge [u, v] = Relation.call host .le [v, u]

variable {host : Host} {u v w : Value} {r : Relation}

/-! ### The two tables -/

namespace Comparable

/-- The kind of what can be compared. -/
def kind : Comparable → Kind
  | bool _ => .truth
  | int _ | uint _ => .integer
  | float _ => .float
  | text _ => .text

variable {a b : Comparable}

/-- A value that has a kind can be compared. -/
theorem ofValue_cases (v : Value) :
    (∃ a, ofValue v = .ok a ∧ kind? v = some a.kind) ∨
      (ofValue v = .error invalidComparison ∧ kind? v = none) := by
  rw [ofValue, kind?]
  cases v.indirect with
  | bool _ | int _ | uint _ | float _ | text _ => exact .inl ⟨_, rfl, rfl⟩
  | _ => exact .inr ⟨rfl, rfl⟩

/-- What is of one kind is equal or not, and nothing else is. -/
theorem equal_cases (a b : Comparable) :
    (a.kind = b.kind ∧ ∃ e, a.equal b = .ok e) ∨
      (a.kind ≠ b.kind ∧ a.equal b = .error incompatibleComparison) := by
  cases a <;> cases b <;> first
    | exact .inl ⟨rfl, _, rfl⟩
    | exact .inr ⟨nofun, rfl⟩

/-- What is of one kind is ordered, unless it is a truth value. -/
theorem order_cases (a b : Comparable) :
    (a.kind = b.kind ∧ a.kind ≠ .truth ∧ ∃ o, a.order b = .ok o) ∨
      (¬ (a.kind = b.kind ∧ a.kind ≠ .truth) ∧ ∃ e, a.order b = .error e) := by
  cases a <;> cases b <;> first
    | exact .inl ⟨rfl, nofun, _, rfl⟩
    | exact .inr ⟨nofun, _, rfl⟩

/-- Both tables say the same of the order of two values. -/
structure Agree (a b : Comparable) (o : Ordering) : Prop where
  order : a.order b = .ok (some o)
  equal : a.equal b = .ok o.isEq

/-- The integer of either kind. -/
def integer? : Comparable → Option Int
  | int n => some n.toInt
  | uint n => some n.toNat
  | _ => none

/-- Both tables go by two numbers where the order is theirs, and equality is as well. -/
private theorem agree_of_numbers {m n : Int} {e : Bool}
    (horder : a.order b = .ok (some (compare m n))) (hequal : a.equal b = .ok e)
    (he : e = true ↔ m = n) : Agree a b (compare m n) where
  order := horder
  equal := by
    rw [hequal, Except.ok.injEq, Bool.eq_iff_iff, he, Ordering.isEq_iff_eq_eq,
      Std.compare_eq_iff_eq]

/-- Integers of either kind compare as the numbers that they are. -/
theorem agree_of_integers {m n : Int} (ha : a.integer? = some m) (hb : b.integer? = some n) :
    Agree a b (compare m n) := by
  have ordered {o o' : Ordering} (h : o = o') :
      (.ok (some o) : Except EvalError (Option Ordering)) = .ok (some o') :=
    congrArg (Except.ok ∘ some) h
  cases a with
  | int x =>
    cases ha
    cases b with
    | int y =>
      cases hb
      exact agree_of_numbers rfl rfl (beq_iff_eq.trans Int64.toInt_inj.symm)
    | uint y =>
      cases hb
      exact agree_of_numbers (ordered (Number.compareSigned_eq x y)) rfl Number.equalsUnsigned_iff
    | float _ | bool _ | text _ => cases hb
  | uint x =>
    cases ha
    cases b with
    | int y =>
      cases hb
      exact agree_of_numbers (ordered (Number.compareUnsigned_eq x y)) rfl
        (Number.equalsUnsigned_iff.trans eq_comm)
    | uint y =>
      cases hb
      have heq : (x == y) = true ↔ (x.toNat : Int) = y.toNat := by
        rw [beq_iff_eq, Int.ofNat_inj, UInt64.toNat_inj]
      exact agree_of_numbers (ordered (Number.compare_toNat x y)) rfl heq
    | float _ | bool _ | text _ => cases hb
  | float _ | bool _ | text _ => cases ha

/-- Texts compare as their bytes. -/
theorem agree_of_texts (s t : String) :
    Agree (text s) (text t) (compare s.toUTF8.toList t.toUTF8.toList) := by
  rw [Text.compare_toUTF8]
  refine ⟨rfl, congrArg Except.ok ?_⟩
  rw [Bool.eq_iff_iff, Ordering.isEq_iff_eq_eq, Std.compare_eq_iff_eq, beq_iff_eq]

end Comparable

/-! ### One relation of two values -/

/-- The result of a function that compares. -/
def told (x : Except EvalError Bool) : Plain Results := .ofExcept (x.map fun b ↦ .single (.bool b))

private theorem told_eq_answer {x : Except EvalError Bool} {b : Bool} :
    told x = answer b ↔ x = .ok b := by
  cases x with
  | error _ => exact ⟨nofun, nofun⟩
  | ok c =>
    constructor
    · intro h
      cases h
      rfl
    · intro h
      cases h
      rfl

private theorem answer_inj {x y : Bool} : answer x = answer y ↔ x = y := by
  constructor
  · intro h
    cases h
    rfl
  · exact congrArg answer

namespace Relation

open Comparable

/-- What a relation makes of the two tables. -/
def ask (r : Relation) (a b : Comparable) : Except EvalError Bool :=
  match r with
  | eq => a.equal b
  | ne => (a.equal b).map not
  | r => (a.order b).map fun o ↦ o.any r.test

variable {a b : Comparable} {o : Ordering}

private theorem call_pair (host : Host) (r : Relation) (u v : Value) :
    r.call host [u, v] = .ofExcept ((r.builtin.pureResult [u, v]).map .single) := by
  cases r <;> rfl

private theorem call_of_ok (hu : ofValue u = .ok a) (hv : ofValue v = .ok b) :
    r.call host [u, v] = told (r.ask a b) := by
  rw [call_pair]
  cases r with
  | eq =>
    simp only [builtin, Builtin.pureResult, Compare.eq, equalsAny, List.headD_cons,
      List.tail_cons, hu, hv, ask, bind, Except.bind]
    cases a.equal b with
    | error _ => rfl
    | ok x => cases x <;> rfl
  | ne =>
    simp only [builtin, Builtin.pureResult, Compare.ne, List.headD_cons, List.tail_cons, hu, hv,
      ask, bind, Except.bind]
    cases a.equal b <;> rfl
  | lt | le | gt | ge =>
    simp only [builtin, Builtin.pureResult, ordered, List.headD_cons, List.tail_cons, hu, hv,
      ask, bind, Except.bind]
    cases a.order b <;> rfl

private theorem call_of_error {e : EvalError}
    (h : ofValue u = .error e ∨ (∃ a, ofValue u = .ok a) ∧ ofValue v = .error e) :
    r.call host [u, v] = .fail e := by
  rw [call_pair]
  obtain hu | ⟨⟨a, hu⟩, hv⟩ := h
  · cases r <;>
      simp only [builtin, Builtin.pureResult, Compare.eq, Compare.ne, ordered, List.headD_cons,
        hu] <;> rfl
  · cases r <;>
      simp only [builtin, Builtin.pureResult, Compare.eq, Compare.ne, ordered, equalsAny,
        List.headD_cons, List.tail_cons, hu, hv] <;> rfl

private theorem ask_of_agree (h : Agree a b o) : r.ask a b = .ok (r.test o) := by
  cases r with
  | eq => exact h.equal
  | ne =>
    rw [ask, h.equal]
    cases o <;> rfl
  | lt | le | gt | ge =>
    simp only [ask, h.order]
    rfl

/-- A relation has an answer for what is of one kind, if it is about this kind. -/
theorem ask_cases (r : Relation) (a b : Comparable) :
    ((a.kind = b.kind ∧ (a.kind = .truth → r = .eq ∨ r = .ne)) ∧ ∃ x, r.ask a b = .ok x) ∨
      (¬ (a.kind = b.kind ∧ (a.kind = .truth → r = .eq ∨ r = .ne)) ∧
        ∃ e, r.ask a b = .error e) := by
  cases r with
  | eq =>
    obtain ⟨hk, x, hx⟩ | ⟨hk, hx⟩ := equal_cases a b
    · exact .inl ⟨⟨hk, fun _ ↦ .inl rfl⟩, x, hx⟩
    · exact .inr ⟨fun h ↦ hk h.1, _, hx⟩
  | ne =>
    obtain ⟨hk, x, hx⟩ | ⟨hk, hx⟩ := equal_cases a b
    · exact .inl ⟨⟨hk, fun _ ↦ .inr rfl⟩, _, congrArg (Except.map not) hx⟩
    · exact .inr ⟨fun h ↦ hk h.1, _, congrArg (Except.map not) hx⟩
  | lt | le | gt | ge =>
    obtain ⟨hk, ht, x, hx⟩ | ⟨hk, e, hx⟩ := order_cases a b
    · exact .inl ⟨⟨hk, fun h ↦ absurd h ht⟩, _, congrArg (Except.map _) hx⟩
    · refine .inr ⟨fun h ↦ hk ⟨h.1, fun ht ↦ ?_⟩, e, congrArg (Except.map _) hx⟩
      obtain h | h := h.2 ht <;> cases h

/-- A relation of two values has an answer if it is about their kind, and fails otherwise. -/
theorem call_cases (host : Host) (r : Relation) (u v : Value) :
    (r.Compares u v ∧ ∃ x, r.call host [u, v] = answer x) ∨
      (¬ r.Compares u v ∧ ∃ e, r.call host [u, v] = .fail e) := by
  obtain ⟨a, hu, ku⟩ | ⟨hu, ku⟩ := ofValue_cases u
  · obtain ⟨b, hv, kv⟩ | ⟨hv, kv⟩ := ofValue_cases v
    · rw [call_of_ok hu hv, Compares, ku, kv]
      obtain ⟨⟨hk, ht⟩, x, hx⟩ | ⟨hk, e, hx⟩ := r.ask_cases a b
      · exact .inl ⟨⟨_, rfl, congrArg some hk.symm, ht⟩, x, told_eq_answer.mpr hx⟩
      · refine .inr ⟨?_, e, by rw [hx]; rfl⟩
        rintro ⟨k, hka, hkb, ht⟩
        cases hka
        exact hk ⟨(Option.some.inj hkb).symm, ht⟩
    · refine .inr ⟨?_, _, call_of_error (.inr ⟨⟨a, hu⟩, hv⟩)⟩
      rintro ⟨k, -, hk, -⟩
      cases kv.symm.trans hk
  · refine .inr ⟨?_, _, call_of_error (.inl hu)⟩
    rintro ⟨k, hk, -, -⟩
    cases ku.symm.trans hk

private theorem compares_iff : r.Compares u v ↔ ∃ x, r.call host [u, v] = answer x := by
  obtain ⟨hc, hx⟩ | ⟨hc, e, he⟩ := call_cases host r u v
  · exact ⟨fun _ ↦ hx, fun _ ↦ hc⟩
  · refine ⟨fun h ↦ absurd h hc, ?_⟩
    rintro ⟨x, hx⟩
    cases he.symm.trans hx

private theorem fails_iff : (∃ e, r.call host [u, v] = .fail e) ↔ ¬ r.Compares u v := by
  obtain ⟨hc, x, hx⟩ | ⟨hc, he⟩ := call_cases host r u v
  · refine ⟨?_, fun h ↦ absurd hc h⟩
    rintro ⟨e, he⟩
    cases he.symm.trans hx
  · exact ⟨fun _ ↦ hc, fun _ ↦ he⟩

end Relation

/-! ### The order of three values -/

section Order

variable {α : Type} [Ord α] {x y z : α}

/-- Two values have ranks by whose order every relation of them is decided. -/
def Ranked (host : Host) (u v : Value) (x y : α) : Prop :=
  ∀ r : Relation, r.call host [u, v] = answer (r.test (compare x y))

private theorem Ranked.holds (h : Ranked host u v x y) (r : Relation) :
    Holds host r u v ↔ r.test (compare x y) = true := by
  rw [Holds, h r, answer_inj]

private theorem ranked_of_integers {m n : Int} (hu : Argument.integer? u = some m)
    (hv : Argument.integer? v = some n) : Ranked host u v m n := by
  have compared {v : Value} {n : Int} (h : Argument.integer? v = some n) :
      ∃ a, Comparable.ofValue v = .ok a ∧ a.integer? = some n := by
    rw [Argument.integer?] at h
    rw [Comparable.ofValue]
    cases hv : v.indirect with
    | int _ | uint _ =>
      rw [hv] at h
      exact ⟨_, rfl, h⟩
    | _ =>
      rw [hv] at h
      cases h
  obtain ⟨a, ha, hm⟩ := compared hu
  obtain ⟨b, hb, hn⟩ := compared hv
  intro r
  rw [Relation.call_of_ok ha hb, Relation.ask_of_agree (Comparable.agree_of_integers hm hn)]
  rfl

private theorem ranked_of_texts {s t : String} (hu : u.indirect = .text s)
    (hv : v.indirect = .text t) : Ranked host u v s.toUTF8.toList t.toUTF8.toList := by
  have ha : Comparable.ofValue u = .ok (.text s) := by rw [Comparable.ofValue, hu]
  have hb : Comparable.ofValue v = .ok (.text t) := by rw [Comparable.ofValue, hv]
  intro r
  rw [Relation.call_of_ok ha hb, Relation.ask_of_agree (Comparable.agree_of_texts s t)]
  rfl

variable [Std.TransOrd α] [Std.LawfulEqOrd α]

private theorem test_trans (hr : r ≠ .ne) (hxy : r.test (compare x y) = true)
    (hyz : r.test (compare y z) = true) : r.test (compare x z) = true := by
  cases r with
  | ne => exact absurd rfl hr
  | eq =>
    have hx : x = y := Std.LawfulEqCmp.eq_of_compare (Ordering.isEq_iff_eq_eq.mp hxy)
    exact hx ▸ hyz
  | lt =>
    rw [Relation.test, Ordering.isLT_iff_eq_lt] at *
    exact Std.TransCmp.lt_trans hxy hyz
  | le => exact Std.TransCmp.isLE_trans hxy hyz
  | gt =>
    rw [Relation.test, Ordering.isGT_iff_eq_gt] at *
    exact Std.TransCmp.gt_trans hxy hyz
  | ge => exact Std.TransCmp.isGE_trans hxy hyz

private theorem coherent_of_ranked (huv : Ranked host u v x y) (hvw : Ranked host v w y z)
    (huw : Ranked host u w x z) (hvu : Ranked host v u y x) : Coherent host u v w where
  trichotomy := by
    simp only [huv.holds, Relation.test]
    cases compare x y <;> decide
  trans r hr := by
    rw [huv.holds, hvw.holds, huw.holds]
    exact test_trans hr
  ne_iff := by
    simp only [huv.holds, Relation.test]
    cases compare x y <;> decide
  le_iff := by
    simp only [huv.holds, Relation.test]
    cases compare x y <;> decide
  ge_eq := by
    have hswap : compare y x = (compare x y).swap := Std.OrientedCmp.eq_swap
    rw [huv, hvu, hswap]
    cases compare x y <;> rfl

end Order

/-! ### One value and several others -/

namespace Comparable

variable {a : Comparable}

private theorem equalsAny_cons (rest : List Value) :
    a.equalsAny (v :: rest) = .ok true ↔
      (ofValue v >>= a.equal) = .ok true ∨
        (ofValue v >>= a.equal) = .ok false ∧ a.equalsAny rest = .ok true := by
  rw [equalsAny]
  cases ofValue v with
  | error e => simp [bind, Except.bind]
  | ok b =>
    simp only [bind, Except.bind]
    cases a.equal b with
    | error e => simp
    | ok x => cases x <;> simp [pure, Except.pure]

/-- A value is found among others if it equals one of them, and those before can be compared. -/
theorem equalsAny_iff (vs : List Value) :
    a.equalsAny vs = .ok true ↔
      ∃ before v after, vs = before ++ v :: after ∧ (ofValue v >>= a.equal) = .ok true ∧
        ∀ x ∈ before, ∃ e, (ofValue x >>= a.equal) = .ok e := by
  induction vs with
  | nil =>
    constructor
    · intro h
      cases h
    · rintro ⟨before, v, after, h, -⟩
      cases before <;> cases h
  | cons v rest ih =>
    rw [equalsAny_cons, ih]
    constructor
    · rintro (h | ⟨hv, before, w, after, rfl, hw, hbefore⟩)
      · exact ⟨[], v, rest, rfl, h, List.forall_mem_nil _⟩
      · exact ⟨v :: before, w, after, rfl, hw, List.forall_mem_cons.mpr ⟨⟨_, hv⟩, hbefore⟩⟩
    · rintro ⟨before, w, after, h, hw, hbefore⟩
      cases before with
      | nil =>
        cases h
        exact .inl hw
      | cons x before =>
        cases h
        obtain ⟨⟨e, hv⟩, hbefore⟩ := List.forall_mem_cons.mp hbefore
        cases e with
        | true => exact .inl hv
        | false => exact .inr ⟨hv, before, w, after, rfl, hw, hbefore⟩

end Comparable

namespace Relation

open Comparable

variable {a : Comparable}

private theorem eq_call_pair (hu : ofValue u = .ok a) (v : Value) :
    Relation.eq.call host [u, v] = told (ofValue v >>= a.equal) := by
  cases hv : ofValue v with
  | error e => exact call_of_error (.inr ⟨⟨a, hu⟩, hv⟩)
  | ok b => exact call_of_ok hu hv

private theorem eq_call (host : Host) (u : Value) (vs : List Value) :
    Relation.eq.call host (u :: vs) = .ofExcept ((Compare.eq (u :: vs)).map .single) := by
  have haccepts : (Function.ofBuiltin .eq).arity.accepts (u :: vs).length = true :=
    decide_eq_true (Nat.succ_le_succ (Nat.zero_le vs.length))
  exact congrArg _ (Function.plainProgram_of_accepts rfl haccepts)

private theorem eq_call_iff (hu : ofValue u = .ok a) (vs : List Value) :
    Relation.eq.call host (u :: vs) = answer true ↔ a.equalsAny vs = .ok true := by
  rw [eq_call, Compare.eq, List.headD_cons, hu]
  cases vs with
  | nil => exact ⟨nofun, nofun⟩
  | cons v vs =>
    have htold : told (a.equalsAny (v :: vs)) =
        .ofExcept (((a.equalsAny (v :: vs)).map Value.bool).map .single) := by
      cases a.equalsAny (v :: vs) <;> rfl
    rw [← told_eq_answer, htold]
    rfl

/-- A value equals one of several if it equals one that comes before all that fail with it. -/
theorem eq_any_iff (host : Host) (u : Value) (vs : List Value) :
    Relation.eq.call host (u :: vs) = answer true ↔
      ∃ before v after, vs = before ++ v :: after ∧ Holds host .eq u v ∧
        ∀ x ∈ before, Relation.eq.Compares u x := by
  obtain ⟨a, hu, -⟩ | ⟨hu, -⟩ := ofValue_cases u
  · simp only [Holds, @compares_iff host, eq_call_pair hu, eq_call_iff hu,
      told_eq_answer, equalsAny_iff]
  · have hcall : Relation.eq.call host (u :: vs) = .fail invalidComparison := by
      rw [eq_call, Compare.eq, List.headD_cons, hu]
      rfl
    rw [hcall]
    refine ⟨nofun, ?_⟩
    rintro ⟨before, v, after, -, hv, -⟩
    cases (call_of_error (.inl hu)).symm.trans hv

end Relation

/-! ### All six relations -/

private theorem integer?_of_kind? (h : kind? v = some .integer) :
    ∃ n, Argument.integer? v = some n := by
  rw [kind?] at h
  rw [Argument.integer?]
  cases hv : v.indirect with
  | int _ | uint _ => exact ⟨_, rfl⟩
  | _ =>
    rw [hv] at h
    cases h

private theorem text_of_kind? (h : kind? v = some .text) : ∃ s, v.indirect = .text s := by
  rw [kind?] at h
  cases hv : v.indirect with
  | text s => exact ⟨s, rfl⟩
  | _ =>
    rw [hv] at h
    cases h

/-- The functions of comparison are about one order. For integers of either kind, also inside
optionals, each has an answer, which is that for the integers that they are; for texts it is that
for their bytes. So the relations of any three integers, or of any three texts, are those of one
total order. A value equals one of several if it equals one of them and can be compared with those
before it. Other values than truth values, numbers or texts of one kind fail, and so do truth values
where their order is asked for. -/
theorem relations_coherent (host : Host) :
    (∀ (r : Relation) (u v : Value) (m n : Int), Argument.integer? u = some m →
      Argument.integer? v = some n → r.call host [u, v] = answer (r.test (compare m n))) ∧
    (∀ (r : Relation) (u v : Value) (s t : String), u.indirect = .text s → v.indirect = .text t →
      r.call host [u, v] = answer (r.test (compare s.toUTF8.toList t.toUTF8.toList))) ∧
    (∀ (u v w : Value) (k : Kind), k = .integer ∨ k = .text → kind? u = some k →
      kind? v = some k → kind? w = some k → Coherent host u v w) ∧
    (∀ (u : Value) (vs : List Value), Relation.eq.call host (u :: vs) = answer true ↔
      ∃ before v after, vs = before ++ v :: after ∧ Holds host .eq u v ∧
        ∀ x ∈ before, Relation.eq.Compares u x) ∧
    ∀ (r : Relation) (u v : Value),
      (r.Compares u v ↔ ∃ x, r.call host [u, v] = answer x) ∧
        (¬ r.Compares u v ↔ ∃ e, r.call host [u, v] = .fail e) := by
  refine ⟨fun r u v m n hu hv ↦ ranked_of_integers hu hv r,
    fun r u v s t hu hv ↦ ranked_of_texts hu hv r, ?_, Relation.eq_any_iff host,
    fun r u v ↦ ⟨Relation.compares_iff, Relation.fails_iff.symm⟩⟩
  rintro u v w k (rfl | rfl) hu hv hw
  · obtain ⟨l, hu⟩ := integer?_of_kind? hu
    obtain ⟨m, hv⟩ := integer?_of_kind? hv
    obtain ⟨n, hw⟩ := integer?_of_kind? hw
    exact coherent_of_ranked (ranked_of_integers hu hv) (ranked_of_integers hv hw)
      (ranked_of_integers hu hw) (ranked_of_integers hv hu)
  · obtain ⟨_, hu⟩ := text_of_kind? hu
    obtain ⟨_, hv⟩ := text_of_kind? hv
    obtain ⟨_, hw⟩ := text_of_kind? hw
    exact coherent_of_ranked (ranked_of_texts hu hv) (ranked_of_texts hv hw)
      (ranked_of_texts hu hw) (ranked_of_texts hv hu)

/-- Values at the ends of the ranges of integers, of which one is in an optional. -/
theorem relations_coherent_mixed :
    Relation.lt.call .empty [.int (-1), .some (.uint 18446744073709551615) none] = answer true ∧
      Relation.gt.call .empty [.text "é", .text "z"] = answer true ∧
      Coherent .empty (.int (-9223372036854775808)) (.uint 9223372036854775808)
        (.some (.int 9223372036854775807) none) := by
  obtain ⟨integers, texts, coherent, -, -⟩ := relations_coherent .empty
  have hlt := integers .lt (.int (-1)) (.some (.uint 18446744073709551615) none) (-1)
    18446744073709551615 (by decide) (by decide)
  have hgt := texts .gt (.text "é") (.text "z") "é" "z" rfl rfl
  exact ⟨hlt.trans (congrArg answer (by decide)), hgt.trans (congrArg answer (by decide +kernel)),
    coherent _ _ _ .integer (.inl rfl) rfl rfl rfl⟩

end TextTemplate.Compare
