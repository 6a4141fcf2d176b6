import Mathlib.Data.List.Nodup
import TextTemplate.Proofs.Layer

/-!
# Visible functions

An executor is asked for a function by its name, for a scope of some functions, or for the scope of
all of them. A single function is looked for through the chain from its front; the scope of all of
them is put together from the back, so that what comes later replaces what was there. The answers
agree (`Executor.filterFuncs_agrees`), since no layer has two entries of one name. That is so of
every executor that can be made (`Executor.Made.proper`).
-/

set_option autoImplicit false

namespace TextTemplate

variable {α : Type}

namespace Layer

/-- No name has two entries. -/
def Proper (layer : Layer α) : Prop := (layer.map Prod.fst).Nodup

/-- The first entry counts for its name. -/
theorem get?_cons (e : String × α) (rest : Layer α) (name : String) :
    get? (e :: rest) name = if name = e.1 then some e.2 else get? rest name := by
  rw [get?, List.lookup_cons]
  split
  · next h => rw [if_pos (beq_iff_eq.mp h)]
  · next h =>
    rw [if_neg (by simpa using h)]
    rfl

/-- An entry that is set is found under its name, and the others as before. -/
theorem get?_insert (layer : Layer α) (name : String) (a : α) (n : String) :
    get? (insert name a layer) n = if n = name then some a else get? layer n := by
  induction layer with
  | nil => exact get?_cons (name, a) [] n
  | cons e rest ih =>
    rw [insert]
    split
    · next he =>
      subst he
      rw [get?_cons, get?_cons]
      split
      · rfl
      · rfl
    · next he =>
      rw [get?_cons, get?_cons, ih]
      split
      · next hn => rw [if_neg fun h ↦ he (hn.symm.trans h)]
      · rfl

private theorem mem_map_fst_iff (layer : Layer α) (name : String) :
    name ∈ layer.map Prod.fst ↔ (get? layer name).isSome = true := by
  induction layer with
  | nil => simp [get?]
  | cons e rest ih =>
    rw [get?_cons, List.map_cons, List.mem_cons, ih]
    split
    · next h => simp [h]
    · next h => simp [h]

/-- Setting an entry sets a name that is there or adds it at the end. -/
theorem map_fst_insert (layer : Layer α) (name : String) (a : α) :
    (insert name a layer).map Prod.fst =
      if name ∈ layer.map Prod.fst then layer.map Prod.fst else layer.map Prod.fst ++ [name] := by
  induction layer with
  | nil => rfl
  | cons e rest ih =>
    rw [insert]
    split
    · next he => simp [he]
    · next he =>
      rw [List.map_cons, List.map_cons, ih]
      by_cases hm : name ∈ rest.map Prod.fst
      · rw [if_pos hm, if_pos (List.mem_cons_of_mem _ hm)]
      · have hc : name ∉ e.1 :: rest.map Prod.fst := by
          rw [List.mem_cons, not_or]
          exact ⟨fun h ↦ he h.symm, hm⟩
        rw [if_neg hm, if_neg hc, List.cons_append]

private theorem Proper.insert {layer : Layer α} (h : layer.Proper) (name : String) (a : α) :
    Proper (Layer.insert name a layer) := by
  rw [Proper, map_fst_insert]
  split
  · exact h
  · next hn => exact h.append (List.nodup_singleton name) (by simpa using hn)

private theorem Proper.insertAll {layer : Layer α} (h : layer.Proper) (other : Layer α) :
    Proper (layer.insertAll other) := by
  rw [Layer.insertAll]
  induction other generalizing layer with
  | nil => exact h
  | cons e rest ih => exact ih (h.insert e.1 e.2)

/-- Entries of another layer replace those of their names. -/
theorem get?_insertAll (layer : Layer α) {other : Layer α} (h : other.Proper) (n : String) :
    get? (layer.insertAll other) n = (get? other n).or (get? layer n) := by
  rw [insertAll]
  induction other generalizing layer with
  | nil => rfl
  | cons e rest ih =>
    obtain ⟨he, hrest⟩ := List.nodup_cons.mp h
    rw [List.foldl_cons, ih _ hrest, get?_insert, get?_cons]
    split
    · next hn =>
      -- a proper layer has no second entry of the name that would come after this one
      have hnone : get? rest n = none := by
        rw [← Option.not_isSome_iff_eq_none, ← mem_map_fst_iff, hn]
        exact he
      rw [hnone]
      rfl
    · rfl

end Layer

private theorem mem_insertName (name n : String) (names : List String) :
    n ∈ insertName name names ↔ n = name ∨ n ∈ names := by
  induction names with
  | nil => simp [insertName]
  | cons m rest ih =>
    rw [insertName]
    split
    · exact List.mem_cons
    · split
      · next h => simp [h]
      · rw [List.mem_cons, ih, List.mem_cons, or_left_comm]

/-- A name is put into an ascending list so that it stays one. -/
theorem insertName_ascending (name : String) {names : List String}
    (h : names.Pairwise (· < ·)) : (insertName name names).Pairwise (· < ·) := by
  induction names with
  | nil => exact List.pairwise_singleton ..
  | cons m rest ih =>
    obtain ⟨hm, hrest⟩ := List.pairwise_cons.mp h
    rw [insertName]
    split
    · next hlt =>
      refine List.pairwise_cons.mpr ⟨?_, h⟩
      intro n hn
      obtain rfl | hn := List.mem_cons.mp hn
      · exact hlt
      · exact String.lt_trans hlt (hm n hn)
    · next hnot =>
      split
      · exact h
      · next hne =>
        have hgt : m < name := by
          rcases Std.lt_trichotomy name m with hlt | heq | hgt
          · exact (hnot hlt).elim
          · exact (hne heq).elim
          · exact hgt
        refine List.pairwise_cons.mpr ⟨?_, ih hrest⟩
        intro n hn
        obtain rfl | hn := (mem_insertName name n rest).mp hn
        · exact hgt
        · exact hm n hn

namespace Scope

/-- Each layer has at most one entry of a name. -/
def Proper (s : Scope α) : Prop := ∀ layer ∈ s.layers, Layer.Proper layer

/-! ### Names -/

private theorem mem_names_iff (s : Scope α) (name : String) :
    name ∈ s.names ↔ (s.get? name).isSome = true := by
  have hfold (acc names : List String) :
      name ∈ names.foldl (fun acc n ↦ insertName n acc) acc ↔ name ∈ acc ∨ name ∈ names := by
    induction names generalizing acc with
    | nil => simp
    | cons n rest ih =>
      rw [List.foldl_cons, ih, mem_insertName, List.mem_cons, or_assoc, or_left_comm]
  have hmem : name ∈ s.names ↔ ∃ layer ∈ s.layers, name ∈ layer.map Prod.fst := by
    rw [names, hfold, List.mem_flatMap]
    simp
  rw [hmem, get?, List.findSome?_isSome_iff]
  simp only [Layer.mem_map_fst_iff]

private theorem names_ascending (s : Scope α) : s.names.Pairwise (· < ·) := by
  have hfold (acc names : List String) (h : acc.Pairwise (· < ·)) :
      (names.foldl (fun acc n ↦ insertName n acc) acc).Pairwise (· < ·) := by
    induction names generalizing acc with
    | nil => exact h
    | cons n rest ih => exact ih _ (insertName_ascending n h)
  exact hfold [] _ .nil

/-! ### All entries as one layer -/

/-- Flattening from the back gives what a lookup from the front finds. -/
theorem get?_flatten {s : Scope α} (h : s.Proper) (name : String) :
    Layer.get? s.flatten name = s.get? name := by
  obtain ⟨layers⟩ := s
  rw [flatten, get?, List.foldl_reverse]
  dsimp only
  induction layers with
  | nil => rfl
  | cons layer rest ih =>
    rw [List.foldr_cons, Layer.get?_insertAll _ (h layer List.mem_cons_self),
      ih fun l hl ↦ h l (List.mem_cons_of_mem _ hl), List.findSome?_cons]
    cases Layer.get? layer name with
    | none => rfl
    | some a => rfl

private theorem flatten_proper (s : Scope α) : Layer.Proper s.flatten := by
  have hfold (acc : Layer α) (layers : List (Layer α)) (h : acc.Proper) :
      (layers.foldl Layer.insertAll acc).Proper := by
    induction layers generalizing acc with
    | nil => exact h
    | cons layer rest ih => exact ih _ (h.insertAll layer)
  exact hfold [] _ List.nodup_nil

/-! ### Some entries as one layer -/

/-- The first of some names that has no entry. -/
def missing? (s : Scope α) (names : List String) : Option String :=
  names.find? fun name ↦ (s.get? name).isNone

/-- Picking fails at the first name that has no entry. -/
theorem pick_of_missing {s : Scope α} {acc : Layer α} {names : List String} {name : String}
    (h : s.missing? names = some name) : s.pick acc names = .error (.undefined name) := by
  rw [missing?] at h
  induction names generalizing acc with
  | nil => cases h
  | cons n rest ih =>
    rw [pick]
    cases hn : s.get? n with
    | none =>
      rw [List.find?_cons_of_pos (by rw [hn]; rfl)] at h
      cases h
      rfl
    | some a =>
      rw [List.find?_cons_of_neg (by rw [hn]; exact Bool.false_ne_true)] at h
      exact ih h

/-- Where every name has an entry, picking adds these entries to a layer. -/
theorem pick_of_not_missing {s : Scope α} {acc : Layer α} {names : List String}
    (h : s.missing? names = none) (hacc : acc.Proper) :
    ∃ layer : Layer α, s.pick acc names = .ok layer ∧ layer.Proper ∧
      ∀ n, layer.get? n = if n ∈ names then s.get? n else acc.get? n := by
  rw [missing?] at h
  induction names generalizing acc with
  | nil => exact ⟨acc, rfl, hacc, fun n ↦ rfl⟩
  | cons name rest ih =>
    cases hname : s.get? name with
    | none =>
      rw [List.find?_cons_of_pos (by rw [hname]; rfl)] at h
      cases h
    | some a =>
      rw [List.find?_cons_of_neg (by rw [hname]; exact Bool.false_ne_true)] at h
      obtain ⟨layer, hl, hp, hget⟩ := ih h (hacc.insert name a)
      refine ⟨layer, by rw [pick, hname]; exact hl, hp, ?_⟩
      intro n
      rw [hget, Layer.get?_insert]
      by_cases hn : n = name
      · subst hn
        simp [hname]
      · simp [hn]

private theorem filter_of_missing {s : Scope α} {names : List String} {name : String}
    (h : s.missing? names = some name) : s.filter names = .error (.undefined name) := by
  cases names with
  | nil => cases h
  | cons n rest =>
    rw [filter, pick_of_missing h]
    rfl

private theorem filter_of_not_missing {s : Scope α} {names : List String} (hne : names ≠ [])
    (h : s.missing? names = none) :
    ∃ layer : Layer α, s.filter names = .ok ⟨[layer]⟩ ∧ layer.Proper ∧
      ∀ n, layer.get? n = if n ∈ names then s.get? n else none := by
  have hnil : Layer.Proper ([] : Layer α) := List.nodup_nil
  obtain ⟨layer, hl, hp, hget⟩ := pick_of_not_missing h hnil
  refine ⟨layer, ?_, hp, hget⟩
  rw [filter, if_neg (by simpa using hne), hl]
  rfl

/-- A scope of one layer has what the layer has. -/
theorem get?_singleton (layer : Layer α) (name : String) :
    get? ⟨[layer]⟩ name = layer.get? name := by
  rw [get?, List.findSome?_cons]
  cases layer.get? name with
  | none => rfl
  | some a => rfl

/-! ### Scopes that are made -/

/-- The scopes that can be made: from nothing, by writing entries, and out of other scopes. -/
inductive Made : Scope α → Prop where
  | empty : Made empty
  | write {s : Scope α} : Made s → (name : String) → (a : α) → Made (s.write name a)
  | append {s other : Scope α} : Made s → Made other → Made (s.append other)
  | merged {scopes : List (Scope α)} : (∀ s ∈ scopes, Made s) → Made (merged scopes)
  | map {s : Scope α} : Made s → (f : α → α) → Made (s.map f)
  | filter {s t : Scope α} {names : List String} : Made s → s.filter names = .ok t → Made t

private theorem proper_singleton {layer : Layer α} (h : layer.Proper) : Proper ⟨[layer]⟩ := by
  intro l hl
  rwa [List.mem_singleton.mp hl]

variable {s : Scope α}

private theorem Proper.write (h : s.Proper) (name : String) (a : α) :
    (s.write name a).Proper := by
  rw [Scope.write]
  split
  · exact proper_singleton (List.nodup_singleton name)
  · next layer rest hs =>
    intro l hl
    obtain rfl | hl := List.mem_cons.mp hl
    · exact (h layer (hs ▸ List.mem_cons_self)).insert name a
    · exact h l (hs ▸ List.mem_cons_of_mem _ hl)

private theorem Proper.append (h : s.Proper) {other : Scope α} (ho : other.Proper) :
    (s.append other).Proper := by
  intro l hl
  obtain hl | hl := List.mem_append.mp hl
  · exact h l hl
  · exact ho l (List.mem_filter.mp hl).1

/-- Scopes with proper layers are merged into one. -/
theorem proper_merged {scopes : List (Scope α)} (h : ∀ s ∈ scopes, s.Proper) :
    (merged scopes).Proper := by
  intro l hl
  obtain rfl | hl := List.mem_cons.mp hl
  · exact List.nodup_nil
  · obtain ⟨s, hs, hl⟩ := List.mem_flatMap.mp hl
    exact h s hs l (List.mem_filter.mp hl).1

private theorem Proper.map (h : s.Proper) (f : α → α) : (s.map f).Proper := by
  intro l hl
  obtain ⟨layer, hlayer, rfl⟩ := List.mem_map.mp hl
  rw [Layer.Proper, List.map_map]
  exact h layer hlayer

private theorem proper_filter {names : List String} {filtered : Scope α}
    (h : s.filter names = .ok filtered) : filtered.Proper := by
  by_cases hne : names = []
  · subst hne
    cases h
    exact proper_singleton s.flatten_proper
  · cases hm : s.missing? names with
    | some name =>
      rw [filter_of_missing hm] at h
      cases h
    | none =>
      obtain ⟨layer, hl, hp, -⟩ := filter_of_not_missing hne hm
      rw [hl] at h
      cases h
      exact proper_singleton hp

private theorem Proper.extend {s : Scope FuncValue} (h : s.Proper)
    (funcs : List (String × FuncValue)) : (s.extend funcs).1.Proper := by
  induction funcs generalizing s with
  | nil => exact h
  | cons e rest ih =>
    rw [Scope.extend, Scope.set]
    cases checkEntry e.1 e.2 with
    | error fault => exact h
    | ok _ => exact ih (h.write e.1 e.2)

/-- Scopes that are made have proper layers. -/
theorem Made.proper (h : s.Made) : s.Proper := by
  induction h with
  | empty => exact fun _ h ↦ (nomatch h)
  | write _ name a ih => exact ih.write name a
  | append _ _ ih iho => exact ih.append iho
  | merged _ ih => exact proper_merged ih
  | map _ f ih => exact ih.map f
  | filter _ hf _ => exact proper_filter hf

end Scope

namespace Executor

private theorem mem_chain {e x : Executor} :
    x ∈ e.chain ↔ x = e ∨ ∃ p, e.parent = some p ∧ x ∈ p.chain := by
  obtain ⟨_, _, _, parent, _, _, _, _, _, _, _⟩ := e
  cases parent with
  | none =>
    rw [chain, List.mem_singleton]
    exact ⟨.inl, fun h ↦ h.elim id fun ⟨_, hp, _⟩ ↦ (nomatch hp)⟩
  | some p =>
    rw [chain, List.mem_cons]
    exact or_congr_right ⟨fun hx ↦ ⟨p, rfl, hx⟩, fun ⟨_, hp, hx⟩ ↦ by cases hp; exact hx⟩

/-- The functions of an executor and of its parents are in proper layers. -/
def Proper (e : Executor) : Prop := ∀ x ∈ e.chain, x.funcs.Proper

/-! ### Executors that are made -/

/-- The executors that can be made: at the root, below another one, and with other functions or
settings. -/
inductive Made : Executor → Prop where
  | root (set : TemplateSet) (template : Template) (store : Nat) : Made (root set template store)
  | ofRaw (raw : RawOutput) (store : Nat) : Made (ofRaw raw store)
  | child {e : Executor} : Made e → (store : Nat) → Made (e.child store)
  | nested {e : Executor} : Made e → (template : Template) → (globals : List (String × Value)) →
      (depth : Nat) → (caller : Step) → (store : Nat) →
        Made (e.nested template globals depth caller store)
  | addFuncs {e : Executor} : Made e → (funcs : List (String × FuncValue)) →
      Made (e.addFuncs funcs).1
  | withFuncs {e c : Executor} {funcs : List (String × FuncValue)} {store : Nat} : Made e →
      e.withFuncs funcs store = .ok c → Made c
  | withScope {e : Executor} {scope : Scope FuncValue} : Made e → scope.Made → (store : Nat) →
      Made (e.withScope scope store)
  | setFuncs {e : Executor} {scope : Scope FuncValue} : Made e → scope.Made →
      Made { e with funcs := scope }
  | withOptions {e : Executor} : Made e → (options : Options) → (store : Nat) →
      Made (e.withOptions options store)
  | withPolicy {e : Executor} : Made e → (policy : WritePolicy) → (store : Nat) →
      Made (e.withPolicy policy store)
  | withoutCapture {e : Executor} : Made e → Made e.withoutCapture
  | withSuper {e : Executor} : Made e → (path : List Step) → Made (e.withSuper path)

/-- Only the functions of an executor and its parent count; other settings do not matter. -/
private theorem proper_of_parts {e : Executor} (hs : e.funcs.Proper)
    (hp : ∀ p, e.parent = some p → p.Proper) : e.Proper := by
  intro x hx
  obtain rfl | ⟨p, hparent, hx⟩ := mem_chain.mp hx
  · exact hs
  · exact hp p hparent x hx

private theorem proper_root (set : TemplateSet) (template : Template) (store : Nat) :
    (root set template store).Proper := by
  have hnames : (Builtin.rootLayer.map Builtin.name).Nodup := by decide +kernel
  refine proper_of_parts (fun layer hlayer ↦ ?_) nofun
  rwa [List.mem_singleton.mp hlayer, Layer.Proper, List.map_map]

namespace Proper

variable {e x : Executor} (h : e.Proper)
include h

private theorem funcs : e.funcs.Proper := h e (mem_chain.mpr (.inl rfl))

private theorem beside (hs : x.funcs.Proper) (hp : x.parent = e.parent) : x.Proper :=
  proper_of_parts hs fun p hparent y hy ↦ h y (mem_chain.mpr (.inr ⟨p, hp ▸ hparent, hy⟩))

private theorem below (hs : x.funcs.Proper) (hp : x.parent = some e) : x.Proper :=
  proper_of_parts hs fun _ hparent ↦ Option.some.inj (hp.symm.trans hparent) ▸ h

private theorem addFuncs (funcs : List (String × FuncValue)) : (e.addFuncs funcs).1.Proper :=
  h.beside (h.funcs.extend funcs) rfl

private theorem child (store : Nat) : (e.child store).Proper :=
  h.below Scope.Made.empty.proper rfl

private theorem withFuncs {funcs : List (String × FuncValue)} {store : Nat} {c : Executor}
    (hc : e.withFuncs funcs store = .ok c) : c.Proper := by
  have hadded := (h.child store).addFuncs funcs
  rw [Executor.withFuncs] at hc
  split at hc
  · next c' heq =>
    cases hc
    rwa [heq] at hadded
  · cases hc

private theorem withPolicy (policy : WritePolicy) (store : Nat) :
    (e.withPolicy policy store).Proper := by
  rw [Executor.withPolicy]
  split
  · exact h
  · exact h.below Scope.Made.empty.proper rfl

end Proper

/-- The functions of an executor that is made are in proper layers, and so are those of its
parents. -/
theorem Made.proper {e : Executor} (h : e.Made) : e.Proper := by
  induction h with
  | root => exact proper_root _ _ _
  | ofRaw =>
    have hroot := proper_root (.empty "raw") (.declared "raw") 0
    exact hroot.beside hroot.funcs rfl
  | child _ store ih => exact ih.child store
  | nested | withOptions => exact Proper.below ‹_› Scope.Made.empty.proper rfl
  | addFuncs _ funcs ih => exact ih.addFuncs funcs
  | withFuncs _ hc ih => exact ih.withFuncs hc
  | withScope _ hs _ ih => exact ih.below hs.proper rfl
  | setFuncs _ hs ih => exact ih.beside hs.proper rfl
  | withPolicy _ policy store ih => exact ih.withPolicy policy store
  | withoutCapture _ ih | withSuper _ _ ih => exact ih.beside ih.funcs rfl

/-! ### Three ways to ask for functions -/

/-- The layers of an executor and its parents, as one scope. -/
def visible (e : Executor) : Scope FuncValue := .merged (e.chain.map fun x ↦ x.funcs)

private theorem get?_visible (e : Executor) (name : String) :
    e.visible.get? name = e.findFunc? name := by
  rw [findFunc?_eq_layers, visible, Scope.merged, List.flatMap_map, layers]
  rfl

private theorem missing?_visible (e : Executor) (names : List String) :
    e.visible.missing? names = names.find? fun name ↦ (e.findFunc? name).isNone := by
  simp only [Scope.missing?, get?_visible]

/-- The functions that an executor is asked for by name, in a scope of some, or in the scope of all
are the same. A single function is found exactly if the scope of all has it; the scope of some names
is refused exactly if one of them is not found, with the first such name, and otherwise has the
functions of these names and no others; and the names of a scope are those that it has a function
for, ascending. -/
theorem filterFuncs_agrees {e : Executor} (h : e.Proper) :
    (∀ name f, e.findFunc? name = some f ↔
        ∃ scope, e.filterFuncs [] = .ok scope ∧ scope.get? name = some f) ∧
      (∀ names, names ≠ [] →
        ((∃ fault, e.filterFuncs names = .error fault) ↔ ∃ n ∈ names, e.findFunc? n = none) ∧
          (∀ fault, e.filterFuncs names = .error fault →
            ∃ name, names.find? (fun n ↦ (e.findFunc? n).isNone) = some name ∧
              fault = .undefined name) ∧
          ∀ scope, e.filterFuncs names = .ok scope →
            ∀ n, scope.get? n = if n ∈ names then e.findFunc? n else none) ∧
      ∀ names scope, e.filterFuncs names = .ok scope →
        (∀ n, n ∈ scope.names ↔ (scope.get? n).isSome = true) ∧
          scope.names.Pairwise (· < ·) := by
  have hvisible : e.visible.Proper := by
    apply Scope.proper_merged
    intro s hs
    obtain ⟨x, hx, rfl⟩ := List.mem_map.mp hs
    exact h x hx
  refine ⟨?_, ?_, fun names scope _ ↦ ⟨scope.mem_names_iff, scope.names_ascending⟩⟩
  · intro name f
    have hall : e.filterFuncs [] = .ok ⟨[e.visible.flatten]⟩ := rfl
    rw [hall, ← get?_visible, ← Scope.get?_flatten hvisible, ← Scope.get?_singleton]
    constructor
    · exact fun hf ↦ ⟨_, rfl, hf⟩
    · rintro ⟨scope, hscope, hf⟩
      cases hscope
      exact hf
  · intro names hne
    have hfilter : e.filterFuncs names = e.visible.filter names := rfl
    rw [hfilter, ← missing?_visible]
    cases hm : e.visible.missing? names with
    | some name =>
      rw [Scope.filter_of_missing hm]
      rw [missing?_visible] at hm
      refine ⟨⟨fun _ ↦ ?_, fun _ ↦ ⟨_, rfl⟩⟩, ?_, fun scope hs ↦ (nomatch hs)⟩
      · exact ⟨name, List.mem_of_find?_eq_some hm, by simpa using List.find?_some hm⟩
      · intro fault hfault
        cases hfault
        exact ⟨name, rfl, rfl⟩
    | none =>
      obtain ⟨layer, hl, -, hget⟩ := Scope.filter_of_not_missing hne hm
      rw [hl]
      rw [missing?_visible, List.find?_eq_none] at hm
      refine ⟨⟨fun ⟨_, hf⟩ ↦ (nomatch hf), ?_⟩, fun _ hf ↦ (nomatch hf), ?_⟩
      · rintro ⟨n, hn, hnone⟩
        exact (hm n hn (by rw [hnone]; rfl)).elim
      · intro scope hs n
        cases hs
        rw [Scope.get?_singleton, hget, get?_visible]

/-- A function that only fails, under a number. -/
private def numbered (id : Nat) : FuncValue :=
  .direct (.mk ⟨.exactly 0, .single⟩ false (.host id) [] none none)

/-- The scope of one function. -/
private def alone (name : String) (id : Nat) : Scope FuncValue :=
  .write .empty name (numbered id)

/-- A chain of three executors with a name in two of them, twice in the nearest, and with layers
that hold nothing. -/
private def shadowing : Executor :=
  let top := root (.empty "t") (.declared "t") 0
  let middle := (top.withScope ((alone "f" 0).write "g" (numbered 1)) 1).child 2
  middle.withScope (.merged [alone "f" 2, .empty, (alone "f" 3).write "h" (numbered 4)]) 3

private theorem made_shadowing : shadowing.Made := by
  have alone (name : String) (id : Nat) : (alone name id).Made := .write .empty ..
  refine .withScope (.child (.withScope (.root ..) (.write (alone ..) ..) 1) 2) (.merged ?_) 3
  simp only [List.forall_mem_cons, List.not_mem_nil, false_implies, implies_true, and_true]
  exact ⟨alone .., .empty, .write (alone ..) ..⟩

/-- A name in three layers means the nearest, and the first name that is missing is refused. -/
theorem filterFuncs_agrees_shadowing :
    shadowing.Proper ∧
      (∃ scope, shadowing.filterFuncs [] = .ok scope ∧ scope.get? "f" = some (numbered 2)) ∧
      shadowing.filterFuncs ["g", "x", "y"] = .error (.undefined "x") := by
  have h : shadowing.Proper := made_shadowing.proper
  obtain ⟨hall, hsome, -⟩ := filterFuncs_agrees h
  obtain ⟨hfails, hfirst, -⟩ := hsome ["g", "x", "y"] (by decide)
  obtain ⟨fault, hfault⟩ := hfails.mpr ⟨"x", by decide, rfl⟩
  obtain ⟨name, hname, rfl⟩ := hfirst fault hfault
  have hx : ["g", "x", "y"].find? (fun n ↦ (shadowing.findFunc? n).isNone) = some "x" := rfl
  cases hx.symm.trans hname
  exact ⟨h, (hall "f" (numbered 2)).mp rfl, hfault⟩

end Executor

end TextTemplate
