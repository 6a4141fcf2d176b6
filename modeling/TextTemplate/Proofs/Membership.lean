import TextTemplate.Proofs.Evaluation
import TextTemplate.Proofs.KeyOrder

/-!
# Elements of lists

A value that is put together without NaNs, functions, objects and channels equals itself
(`Value.Assembled.same_self`). Nevertheless a list need not contain its own elements: the function
that searches a list looks through the optionals around what it is asked for, but not through those
around the elements. So it misses a value exactly if all elements that equal it are in optionals
(`Collection.contains_agrees_iff`).
-/

set_option autoImplicit false

namespace TextTemplate

namespace Value

/-- Values put together from scalars other than NaN by lists, maps, records and optionals. -/
inductive Assembled : Value → Prop where
  | invalid : Assembled .invalid
  | nil : Assembled .nil
  | bool (b : Bool) : Assembled (.bool b)
  | int (n : Int64) : Assembled (.int n)
  | uint (n : UInt64) : Assembled (.uint n)
  | float {x : Binary64} : x.isNaN = false → Assembled (.float x)
  | text (s : String) : Assembled (.text s)
  | list {items : List Value} {cell : Option Nat} :
      (∀ v ∈ items, Assembled v) → Assembled (.list items cell)
  | map {entries : Dict Value} {cell : Option Nat} :
      (∀ entry ∈ entries.entries, Assembled entry.2) → Assembled (.map entries cell)
  | record {r : Record Value Function} {cell : Option Nat} :
      (∀ field ∈ r.fields, Assembled field.2) → Assembled (.record r cell)
  | some {v : Value} {cell : Option Nat} : Assembled v → Assembled (.some v cell)

/-- Whether a value is an optional. -/
def isOptional : Value → Bool
  | .some .. => true
  | _ => false

variable {v w : Value}

/-! ### Optionals -/

private theorem isOptional_indirect (v : Value) : v.indirect.isOptional = false := by
  cases v with
  | some v cell => exact isOptional_indirect v
  | _ => rfl

private theorem indirect_of_not_isOptional (h : v.isOptional = false) : v.indirect = v := by
  cases v with
  | some v cell => cases h
  | _ => rfl

/-- What equals no optional is none. -/
theorem not_isOptional_of_same (hw : w.isOptional = false) (h : v.same w = true) :
    v.isOptional = false := by
  cases v with
  | some v cell =>
    cases w with
    | some w cell => cases hw
    | _ => cases h
  | _ => rfl

/-! ### Values that equal themselves -/

private theorem sameAll_self {vs : List Value} (h : ∀ v ∈ vs, v.same v = true) :
    sameAll vs vs = true := by
  induction vs with
  | nil => rfl
  | cons v vs ih =>
    obtain ⟨hv, hvs⟩ := List.forall_mem_cons.mp h
    rw [sameAll, hv, ih hvs]
    rfl

private theorem sameEntries_self {es : List (Key × Value)} (h : ∀ e ∈ es, e.2.same e.2 = true) :
    sameEntries es es = true := by
  induction es with
  | nil => rfl
  | cons e es ih =>
    obtain ⟨he, hes⟩ := List.forall_mem_cons.mp h
    rw [sameEntries, he, ih hes, Key.order_self]
    rfl

private theorem sameFields_self {fs : List (String × Value)} (h : ∀ f ∈ fs, f.2.same f.2 = true) :
    sameFields fs fs = true := by
  induction fs with
  | nil => rfl
  | cons f fs ih =>
    obtain ⟨hf, hfs⟩ := List.forall_mem_cons.mp h
    rw [sameFields, hf, ih hfs, beq_self_eq_true]
    rfl

/-- A value that is put together without NaNs equals itself, in whatever cells its parts are. -/
theorem Assembled.same_self (h : v.Assembled) : v.same v = true := by
  induction h with
  | invalid | nil => rfl
  | bool _ | int _ | uint _ | text _ => exact beq_self_eq_true _
  | float hx => simp [same, Binary64.numEq, hx]
  | list _ ih => simp [same, sameAll_self ih]
  | map _ ih => simp [same, sameEntries_self ih]
  | record _ ih => simp [same, sameFields_self ih]
  | some _ ih => simp [same, ih]

private theorem Assembled.indirect {v : Value} (h : v.Assembled) : v.indirect.Assembled := by
  cases v with
  | some v cell =>
    cases h with
    | some h => exact h.indirect
  | _ => exact h

end Value

namespace Collection

/-- A call of the function that searches a collection. -/
def search (host : Host) (collection : Value) (args : List Value) : Plain Results :=
  (Function.ofBuiltin .contains).plainProgram host (collection :: args)

/-- A value is among others if optionals are looked through on both sides. -/
def Finds (items : List Value) (v : Value) : Prop :=
  ∃ w ∈ items, w.indirect.same v.indirect = true

/-- A value is among others, but all that equal it are in optionals. -/
def Hides (items : List Value) (v : Value) : Prop :=
  Finds items v ∧ ∀ w ∈ items, w.indirect.same v.indirect = true → w.isOptional = true

variable {host : Host} {collection v : Value} {items args : List Value} {cell : Option Nat}

/-- A value that is put together without NaNs is among those of which it is one. -/
theorem finds_of_mem (hv : v.Assembled) (h : v ∈ items) : Finds items v :=
  ⟨v, h, hv.indirect.same_self⟩

/-- The search looks for a value outside of optionals. -/
theorem any_same_iff :
    (items.any fun w ↦ w.same v.indirect) = true ↔ Finds items v ∧ ¬ Hides items v := by
  rw [List.any_eq_true]
  constructor
  · rintro ⟨w, hmem, hsame⟩
    have hbare := Value.not_isOptional_of_same (Value.isOptional_indirect v) hsame
    have hfound : w.indirect.same v.indirect = true := by
      rwa [Value.indirect_of_not_isOptional hbare]
    refine ⟨⟨w, hmem, hfound⟩, ?_⟩
    rintro ⟨-, hhidden⟩
    cases hbare.symm.trans (hhidden w hmem hfound)
  · rintro ⟨hfinds, hbare⟩
    obtain ⟨w, hmem, hfound, hbare⟩ :
        ∃ w ∈ items, w.indirect.same v.indirect = true ∧ w.isOptional = false := by
      simpa [Hides, hfinds] using hbare
    rw [Value.indirect_of_not_isOptional hbare] at hfound
    exact ⟨w, hmem, hfound⟩

/-- The search of a list has an answer, whatever it is asked for. -/
theorem search_list (hlist : collection.indirect = .list items cell) (hne : items ≠ []) :
    search host collection args =
      .done (.single (.bool (args.all fun v ↦ items.any fun w ↦ w.same v.indirect))) := by
  have haccepts : (Function.ofBuiltin .contains).arity.accepts (collection :: args).length = true :=
    decide_eq_true (Nat.succ_le_succ (Nat.zero_le args.length))
  have hnonempty : items.isEmpty = false := by rwa [List.isEmpty_eq_false_iff]
  have hcontains : contains (collection :: args) =
      .ok (.bool (args.all fun v ↦ items.any fun w ↦ w.same v.indirect)) := by
    simp only [contains, List.headD_cons, List.tail_cons, hlist, hnonempty]
    rfl
  calc search host collection args
      = .ofExcept ((contains (collection :: args)).map .single) :=
        Function.plainProgram_of_accepts rfl haccepts
    _ = _ := by rw [hcontains]; rfl

/-- The search of a list finds what it is asked for if optionals hide none of it. -/
theorem search_eq_true_iff (hlist : collection.indirect = .list items cell) (hne : items ≠ []) :
    search host collection args = .done (.single (.bool true)) ↔
      ∀ v ∈ args, Finds items v ∧ ¬ Hides items v := by
  rw [search_list hlist hne]
  simp only [Plain.done.injEq, Results.single.injEq, Value.bool.injEq, List.all_eq_true,
    any_same_iff]

/-- The search of a list says whether all that it is asked for is in it, if optionals are looked
through everywhere, unless all is there but something only in optionals. In particular a list of
values that are put together without NaNs contains its own elements unless each element that equals
one of them is in an optional. -/
theorem contains_agrees_iff (host : Host) (args : List Value)
    (hlist : collection.indirect = .list items cell) (hne : items ≠ []) :
    (∃ b, search host collection args = .done (.single (.bool b))) ∧
      ((search host collection args = .done (.single (.bool true)) ↔ ∀ v ∈ args, Finds items v) ↔
        ¬ ((∀ v ∈ args, Finds items v) ∧ ∃ v ∈ args, Hides items v)) ∧
      ((∀ v ∈ items, v.Assembled) → (∀ v ∈ args, v ∈ items) →
        (search host collection args = .done (.single (.bool true)) ↔
          ∀ v ∈ args, ¬ Hides items v)) := by
  refine ⟨⟨_, search_list hlist hne⟩, ?_, fun hitems hargs ↦ ?_⟩
  · rw [search_eq_true_iff hlist hne]
    constructor
    · rintro hiff ⟨hfinds, v, hmem, hhidden⟩
      exact (hiff.mpr hfinds v hmem).2 hhidden
    · intro hnot
      refine ⟨fun h v hmem ↦ (h v hmem).1, fun hfinds v hmem ↦ ⟨hfinds v hmem, fun hhidden ↦ ?_⟩⟩
      exact hnot ⟨hfinds, v, hmem, hhidden⟩
  · rw [search_eq_true_iff hlist hne]
    refine forall₂_congr fun v hmem ↦ ?_
    exact and_iff_right (finds_of_mem (hitems v (hargs v hmem)) (hargs v hmem))

/-- An integer, in an optional and outside of one. -/
def twice : List Value := [.some (.int 1) none, .int 1]

/-- An optional is found if its value is an element, too. -/
theorem contains_own_bare :
    (∀ v ∈ [Value.some (.int 1) none], v ∈ twice ∧ ¬ Hides twice v) ∧
      search .empty (.list twice none) [.some (.int 1) none] = .done (.single (.bool true)) := by
  have hitems : ∀ v ∈ twice, v.Assembled :=
    List.forall_mem_cons.mpr ⟨.some (.int 1), List.forall_mem_singleton.mpr (.int 1)⟩
  have hargs : ∀ v ∈ [Value.some (.int 1) none], v ∈ twice :=
    List.forall_mem_singleton.mpr List.mem_cons_self
  have hbare : ∀ v ∈ [Value.some (.int 1) none], ¬ Hides twice v := by
    refine List.forall_mem_singleton.mpr ?_
    rintro ⟨-, hhidden⟩
    cases hhidden (.int 1) (List.mem_cons_of_mem _ List.mem_cons_self) rfl
  have hlist : (Value.list twice none).indirect = .list twice none := rfl
  obtain ⟨-, -, hown⟩ :=
    contains_agrees_iff .empty [.some (.int 1) none] hlist (List.cons_ne_nil _ _)
  exact ⟨fun v hmem ↦ ⟨hargs v hmem, hbare v hmem⟩, (hown hitems hargs).mpr hbare⟩

/-- A list whose element is in an optional does not contain it. -/
theorem not_contains_own_optional :
    (Value.some (.int 1) none).Assembled ∧
      search .empty (.list [.some (.int 1) none] none) [.some (.int 1) none] =
        .done (.single (.bool false)) :=
  ⟨.some (.int 1), rfl⟩

end Collection

end TextTemplate
