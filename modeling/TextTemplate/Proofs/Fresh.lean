import TextTemplate.Render.Eval

/-!
# Fresh errors

A fresh error has left no call yet. The errors of operators, literals, lookups and built-in
functions are fresh (`Builtin.pureResult_fresh`): what an error records of calls, it gets on its way
out.
-/

set_option autoImplicit false

namespace TextTemplate

variable {α β : Type}

/-- A computation that fails with fresh errors only. -/
structure Fresh (x : Except EvalError α) : Prop where
  frames : ∀ e, x = .error e → e.frames = []

namespace Fresh

private theorem ok (a : α) : Fresh (.ok a : Except EvalError α) := ⟨fun _ h ↦ (nomatch h)⟩

private theorem error {e : EvalError} (h : e.frames = []) :
    Fresh (.error e : Except EvalError α) := by
  refine ⟨fun e' he ↦ ?_⟩
  cases he
  exact h

private theorem bind {x : Except EvalError α} {f : α → Except EvalError β} (hx : Fresh x)
    (hf : ∀ a, Fresh (f a)) : Fresh (x >>= f) := by
  cases x with
  | ok a => exact hf a
  | error e => exact error (hx.frames e rfl)

/-- A change of the value leaves a result fresh. -/
theorem map {x : Except EvalError α} (hx : Fresh x) (f : α → β) : Fresh (x.map f) := by
  cases x with
  | ok a => exact ok (f a)
  | error e => exact error (hx.frames e rfl)

end Fresh

/-! ### Operators and lookups -/

/-- A literal that has no value fails with a fresh error. -/
theorem Literal.value_fresh (n : Literal) : Fresh n.value := by
  rw [value]
  split
  · exact .ok _
  · exact .ok _
  · exact .error rfl
  · exact .ok _
  · exact .error rfl

private theorem Num.div_fresh (a b : Num) : Fresh (a.div b) := by
  cases a with
  | int n | uint n =>
    rw [div]
    split
    · exact .error rfl
    · exact .ok _
  | float x => exact .ok _

private theorem Operator.applyNum_fresh (op : Operator) (left right : Value) (a b : Num) :
    Fresh (op.applyNum left right a b) := by
  cases op with
  | div => exact (a.div_fresh b).map _
  | rem =>
    cases a with
    | int n | uint n =>
      rw [applyNum, Num.rem?]
      split
      · exact .error rfl
      · exact .ok _
    | float x => exact .error rfl
  | _ => exact .ok _

/-- An operator fails with a fresh error. -/
theorem Operator.eval_fresh (op : Operator) (left right : Value) : Fresh (op.eval left right) := by
  unfold eval
  split
  · exact .ok _
  · split
    · exact .ok _
    · split
      · exact op.applyNum_fresh ..
      · exact .error rfl

/-- A wrong number of arguments is a fresh error. -/
theorem Function.checkArity_fresh (f : Function) (name : String) (got : Nat) :
    Fresh (f.checkArity name got) := by
  rw [checkArity]
  split
  · exact .ok _
  · exact .error rfl

/-- A variable that is not found is a fresh error. -/
theorem State.valueOf_fresh (s : State) (name : String) : Fresh (s.valueOf name) := by
  rw [valueOf]
  split
  · exact .ok _
  · exact .error rfl

/-- A template that is not to be called is a fresh error. -/
theorem State.callee_fresh (s : State) (name : String) : Fresh (s.callee name) := by
  rw [callee]
  split
  · exact .error rfl
  · split
    · exact .error rfl
    · exact .ok _

/-! ### Arguments of built-in functions -/

namespace Argument

private theorem text_fresh (func : String) (args : List Value) (i : Nat) :
    Fresh (text func args i) := by
  rw [text]
  split
  · exact .error rfl
  · split
    · exact .ok _
    · exact .error rfl

private theorem key_fresh (v : Value) : Fresh (key v) := by
  rw [key]
  split
  · exact .ok _
  · exact .error rfl

private theorem keys_fresh (args : List Value) : Fresh (keys args) := by
  induction args with
  | nil => exact .ok _
  | cons v rest ih => exact .bind (key_fresh v) fun _ ↦ .bind ih fun _ ↦ .ok _

private theorem pairs_fresh (args : List Value) : Fresh (pairs args) := by
  fun_induction pairs args with
  | case1 k v rest ih => exact .bind (key_fresh k) fun _ ↦ .bind ih fun _ ↦ .ok _
  | case2 => exact .ok _

end Argument

/-! ### Collections -/

namespace Collection

private theorem indexArg_fresh (v : Value) (length : Nat) : Fresh (indexArg v length) := by
  rw [indexArg]
  split
  · split
    · split
      · exact .ok _
      · exact .error rfl
    · exact .error rfl
  · split
    · exact .error rfl
    · exact .error rfl

private theorem indexStep_fresh (item index : Value) : Fresh (indexStep item index) := by
  rw [indexStep]
  split
  · exact .error rfl
  · refine .bind (indexArg_fresh ..) fun i ↦ ?_
    split
    · exact .ok _
    · exact .error rfl
  · refine .bind (indexArg_fresh ..) fun i ↦ ?_
    split
    · exact .ok _
    · exact .error rfl
  · refine .bind (Argument.key_fresh index) fun k ↦ ?_
    split
    · exact .ok _
    · exact .ok _
  · exact .error rfl

private theorem indexPath_fresh (item : Value) (indexes : List Value) :
    Fresh (indexPath item indexes) := by
  induction indexes generalizing item with
  | nil => exact .ok item
  | cons index rest ih => exact .bind (indexStep_fresh item index) ih

private theorem index_fresh (args : List Value) : Fresh (index args) := by
  rw [index]
  split
  · exact .error rfl
  · exact indexPath_fresh ..

private theorem indexArgs_fresh (length : Nat) (args : List Value) :
    Fresh (indexArgs length args) := by
  induction args with
  | nil => exact .ok _
  | cons v rest ih => exact .bind (indexArg_fresh v length) fun _ ↦ .bind ih fun _ ↦ .ok _

private theorem sliceBounds_fresh (length : Nat) (indexes : List Value) :
    Fresh (sliceBounds length indexes) := by
  refine .bind (indexArgs_fresh length indexes) fun given ↦ ?_
  dsimp only
  split
  · exact .error rfl
  · split
    · exact .error rfl
    · exact .ok _

private theorem cut_fresh (length : Nat) (indexes : List Value) (part : Nat → Nat → Value) :
    ∃ x, Fresh x ∧ cut length indexes part = .ofExcept x :=
  ⟨_, (sliceBounds_fresh length indexes).map _, cut_eq length indexes part⟩

/-- A slice fails with a fresh error, and does not panic. -/
theorem slice_fresh (args : List Value) : ∃ x, Fresh x ∧ slice args = .ofExcept x := by
  rw [slice]
  split
  · exact ⟨_, .error rfl, rfl⟩
  · split
    · exact ⟨_, .error rfl, rfl⟩
    · split
      · split
        · exact ⟨_, .error rfl, rfl⟩
        · exact cut_fresh ..
      · exact cut_fresh ..
      · exact ⟨_, .error rfl, rfl⟩

/-- A value without a length is a fresh error. -/
theorem lengthOf_fresh (queued : Nat → Nat) (v : Value) : Fresh (lengthOf queued v) := by
  rw [lengthOf]
  split
  · exact .error rfl
  · exact .error rfl
  · split
    · exact .ok _
    · exact .error rfl

private theorem needles_fresh (i : Nat) (args : List Value) : Fresh (needles i args) := by
  induction args generalizing i with
  | nil => exact .ok _
  | cons v rest ih =>
    rw [needles]
    split
    · exact .bind (ih (i + 1)) fun _ ↦ .ok _
    · exact .error rfl

private theorem contains_fresh (args : List Value) : Fresh (contains args) := by
  rw [contains]
  split
  · exact .error rfl
  · exact .error rfl
  · exact .ok _
  · exact .bind (needles_fresh ..) fun _ ↦ .ok _
  · exact .bind (Argument.keys_fresh _) fun _ ↦ .ok _
  · exact .error rfl

private theorem append_fresh (args : List Value) : Fresh (append args) := by
  rw [append]
  split
  · exact .ok _
  · exact .ok _
  · exact .ok _
  · exact .error rfl

private theorem map_fresh (args : List Value) : Fresh (map args) := by
  rw [map]
  split
  · exact .ok _
  · exact (Argument.pairs_fresh args).map _

private theorem dict_fresh (args : List Value) : Fresh (dict args) := by
  rw [dict]
  split
  · exact .error rfl
  · exact (Argument.pairs_fresh args).map _

end Collection

/-! ### Conversion and comparison -/

namespace Convert

private theorem toInt_fresh (v : Value) : Fresh (toInt v) := by
  rw [toInt]
  split
  · exact .ok _
  · split
    · exact .ok _
    · exact .error rfl
  · exact .ok _
  · split
    · exact .ok _
    · exact .error rfl
  · exact .error rfl

private theorem toUint_fresh (v : Value) : Fresh (toUint v) := by
  rw [toUint]
  split
  · exact .ok _
  · split
    · exact .ok _
    · exact .error rfl
  · exact .ok _
  · split
    · exact .ok _
    · exact .error rfl
  · exact .error rfl

end Convert

namespace Compare

private theorem Comparable.ofValue_fresh (v : Value) : Fresh (ofValue v) := by
  rw [ofValue]
  split
  · exact .ok _
  · exact .ok _
  · exact .ok _
  · exact .ok _
  · exact .ok _
  · exact .error rfl

private theorem Comparable.equal_fresh (a b : Comparable) : Fresh (a.equal b) := by
  cases a with
  | int | uint =>
    cases b with
    | int | uint => exact .ok _
    | _ => exact .error rfl
  | bool =>
    cases b with
    | bool => exact .ok _
    | _ => exact .error rfl
  | float =>
    cases b with
    | float => exact .ok _
    | _ => exact .error rfl
  | text =>
    cases b with
    | text => exact .ok _
    | _ => exact .error rfl

private theorem Comparable.order_fresh (a b : Comparable) : Fresh (a.order b) := by
  cases a with
  | int | uint =>
    cases b with
    | int | uint => exact .ok _
    | _ => exact .error rfl
  | bool =>
    cases b with
    | _ => exact .error rfl
  | float =>
    cases b with
    | float => exact .ok _
    | _ => exact .error rfl
  | text =>
    cases b with
    | text => exact .ok _
    | _ => exact .error rfl

private theorem Comparable.equalsAny_fresh (a : Comparable) (args : List Value) :
    Fresh (a.equalsAny args) := by
  induction args with
  | nil => exact .ok _
  | cons v rest ih =>
    refine .bind (ofValue_fresh v) fun b ↦ .bind (a.equal_fresh b) fun same ↦ ?_
    split
    · exact .ok _
    · exact ih

private theorem eq_fresh (args : List Value) : Fresh (eq args) := by
  refine .bind (Comparable.ofValue_fresh _) fun first ↦ ?_
  split
  · exact .error rfl
  · exact .bind (first.equalsAny_fresh _) fun _ ↦ .ok _

private theorem ne_fresh (args : List Value) : Fresh (ne args) :=
  .bind (Comparable.ofValue_fresh _) fun a ↦ .bind (Comparable.ofValue_fresh _) fun b ↦
    .bind (a.equal_fresh b) fun _ ↦ .ok _

private theorem ordered_fresh (test : Ordering → Bool) (args : List Value) :
    Fresh (ordered test args) :=
  .bind (Comparable.ofValue_fresh _) fun a ↦ .bind (Comparable.ofValue_fresh _) fun b ↦
    .bind (a.order_fresh b) fun _ ↦ .ok _

end Compare

/-! ### The built-in functions -/

private theorem Logic.hasMethod_fresh (args : List Value) : Fresh (hasMethod args) :=
  .bind (Argument.text_fresh ..) fun _ ↦ .ok _

private theorem Trim.trim_fresh (args : List Value) : Fresh (trim args) := by
  rw [trim]
  split
  · exact .ok _
  · exact (Argument.text_fresh ..).map _

/-- The built-in functions that look at nothing but their arguments fail with fresh errors. -/
theorem Builtin.pureResult_fresh (b : Builtin) (args : List Value) : Fresh (b.pureResult args) := by
  cases b with
  | hasMethod => exact Logic.hasMethod_fresh args
  | index => exact Collection.index_fresh args
  | contains => exact Collection.contains_fresh args
  | append => exact Collection.append_fresh args
  | map => exact Collection.map_fresh args
  | dict => exact Collection.dict_fresh args
  | printf => exact .bind (Argument.text_fresh ..) fun _ ↦ .ok _
  | toInt => exact Convert.toInt_fresh _
  | toUint => exact Convert.toUint_fresh _
  | pow => exact Operator.eval_fresh .pow _ _
  | floor => exact Operator.eval_fresh .floorDiv _ _
  | eq => exact Compare.eq_fresh args
  | ne => exact Compare.ne_fresh args
  | lt | le | gt | ge => exact Compare.ordered_fresh _ args
  | trim => exact Trim.trim_fresh args
  | exit => exact .error rfl
  | slice | len | call | rangeCallback | state | funcs | dataFuncs | set | get | templateExec
  | tplRender | tplYield | join => exact .error rfl
  | _ => exact .ok _

namespace RenderFunction

/-- Arguments that are no texts are a fresh error. -/
theorem textArgs_fresh (func : String) (args : List Value) (n : Nat) :
    Fresh (textArgs func args n) := by
  induction n with
  | zero => exact .ok _
  | succ n ih => exact .bind ih fun _ ↦ .bind (Argument.text_fresh ..) fun _ ↦ .ok _

/-- Functions that are not had by their names are a fresh error. -/
theorem collect_fresh (find? : String → Option FuncValue) (scope : Scope FuncValue) (i : Nat)
    (args : List Value) : Fresh (collect find? scope i args) := by
  fun_induction collect find? scope i args with
  | case1 => exact .ok _
  | case3 _ _ _ _ _ _ _ ih => exact ih
  | case6 _ _ _ _ _ _ _ _ _ ih => exact ih
  | _ => exact .error rfl

/-- A value that cannot be a key is a fresh error. -/
theorem localKey_fresh (v : Value) : Fresh (localKey v) := by
  rw [localKey]
  split
  · exact .ok _
  · exact .error rfl

/-- Entries with a key that cannot be one are a fresh error. -/
theorem localEntries_fresh (args : List Value) : Fresh (localEntries args) := by
  fun_induction localEntries args with
  | case1 k v rest ih => exact .bind (localKey_fresh k) fun _ ↦ .bind ih fun _ ↦ .ok _
  | case2 => exact .ok _

/-- Arguments that name no template are a fresh error. -/
theorem templateArgs_fresh (func : String) (args : List Value) :
    Fresh (templateArgs func args) := by
  rw [templateArgs]
  split
  · next e he => exact .error ((Argument.text_fresh func args 0).frames e he)
  · split
    · exact .ok _
    · exact .ok _
    · exact .error rfl

end RenderFunction

namespace Join

/-- A value that has no items to join is a fresh error. -/
theorem items_fresh (v : Value) : Fresh (items v) := by
  rw [items]
  split
  · exact .ok _
  · exact .ok _
  · exact .ok _
  · exact .error rfl

private theorem Style.apply_fresh (style : Style) (opt : String) : Fresh (style.apply opt) := by
  rw [apply]
  split
  · exact .ok _
  · dsimp only
    split
    · exact .ok _
    · split
      · exact .ok _
      · exact .error rfl

/-- Options that are not understood are a fresh error. -/
theorem Style.applyAll_fresh (style : Style) (options : List Value) :
    Fresh (style.applyAll options) := by
  induction options generalizing style with
  | nil => exact .ok style
  | cons v rest ih =>
    rw [applyAll]
    split
    · exact ih style
    · exact .bind (style.apply_fresh _) ih

end Join

end TextTemplate
