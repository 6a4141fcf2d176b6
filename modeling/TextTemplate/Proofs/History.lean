import Mathlib.Data.List.Induction
import TextTemplate.Proofs.Visibility
import TextTemplate.TemplateSet

/-!
# Histories of template sets

A set of templates begins without any and is changed by bodies that are added and by functions that
are given to names. What a name then has is told by the changes of that name alone
(`TemplateSet.lookup_after`): its body is the last one with content, or the last one if none has
content, and its functions are those that could be registered, the later ones before the earlier.
-/

set_option autoImplicit false

namespace TextTemplate

/-! ### Bodies with content -/

/-- Nodes have content, by themselves or in lists: text that is not white space, or a node that is
neither text nor a list. -/
inductive Node.Content : List Node → Prop where
  | text {span : Span} {s : String} {nodes : List Node} :
      .text span s ∈ nodes → (∃ c ∈ s.toList, Text.isBlank c = false) → Content nodes
  | list {span : Span} {inner nodes : List Node} :
      .list span inner ∈ nodes → Content inner → Content nodes
  | other {n : Node} {nodes : List Node} :
      n ∈ nodes → (∀ span s, n ≠ .text span s) → (∀ span inner, n ≠ .list span inner) →
        Content nodes

namespace Node

private theorem Content.mono {nodes more : List Node} (h : Content nodes) (hs : nodes ⊆ more) :
    Content more := by
  cases h with
  | text hm hc => exact .text (hs hm) hc
  | list hm hc => exact .list (hs hm) hc
  | other hm ht hl => exact .other (hs hm) ht hl

private theorem not_content_nil : ¬ Content [] := by
  intro h
  cases h with
  | text hm _ | list hm _ | other hm _ _ => cases hm

private theorem content_cons_iff (n : Node) (rest : List Node) :
    Content (n :: rest) ↔ Content [n] ∨ Content rest := by
  constructor
  · intro h
    cases h with
    | text hm hc =>
      obtain rfl | hm := List.mem_cons.mp hm
      · exact .inl (.text List.mem_cons_self hc)
      · exact .inr (.text hm hc)
    | list hm hc =>
      obtain rfl | hm := List.mem_cons.mp hm
      · exact .inl (.list List.mem_cons_self hc)
      · exact .inr (.list hm hc)
    | other hm ht hl =>
      obtain rfl | hm := List.mem_cons.mp hm
      · exact .inl (.other List.mem_cons_self ht hl)
      · exact .inr (.other hm ht hl)
  · rintro (h | h)
    · exact h.mono (List.cons_subset_cons n (List.nil_subset _))
    · exact h.mono (List.subset_cons_self n rest)

private theorem content_text_iff (span : Span) (s : String) :
    Content [.text span s] ↔ ∃ c ∈ s.toList, Text.isBlank c = false := by
  constructor
  · intro h
    cases h with
    | text hm hc =>
      cases List.mem_singleton.mp hm
      exact hc
    | list hm _ => cases List.mem_singleton.mp hm
    | other hm ht _ => exact (ht _ _ (List.mem_singleton.mp hm)).elim
  · exact .text List.mem_cons_self

private theorem content_list_iff (span : Span) (inner : List Node) :
    Content [.list span inner] ↔ Content inner := by
  constructor
  · intro h
    cases h with
    | text hm _ => cases List.mem_singleton.mp hm
    | list hm hc =>
      cases List.mem_singleton.mp hm
      exact hc
    | other hm _ hl => exact (hl _ _ (List.mem_singleton.mp hm)).elim
  · exact .list List.mem_cons_self

mutual

/-- A node is white space if it has no content. -/
theorem isBlank_eq_false_iff (n : Node) : n.isBlank = false ↔ Content [n] := by
  cases n with
  | text span s => simp [isBlank, content_text_iff, Text.isBlankText]
  | list span inner => rw [isBlank, allBlank_eq_false_iff inner, content_list_iff]
  | action | branch | template | wrap | block =>
    exact iff_of_true rfl (.other List.mem_cons_self (by simp) (by simp))

private theorem allBlank_eq_false_iff (nodes : List Node) :
    allBlank nodes = false ↔ Content nodes := by
  cases nodes with
  | nil => exact iff_of_false Bool.noConfusion not_content_nil
  | cons n rest =>
    rw [content_cons_iff, allBlank, Bool.and_eq_false_iff, isBlank_eq_false_iff n,
      allBlank_eq_false_iff rest]

end

end Node

/-! ### Registered functions -/

/-- Whether an entry may be registered. -/
def isRegistrable (e : String × FuncValue) : Bool :=
  match checkEntry e.1 e.2 with
  | .ok _ => true
  | .error _ => false

namespace Scope

private theorem get?_write {α : Type} (s : Scope α) (name : String) (a : α) (n : String) :
    (s.write name a).get? n = if n = name then some a else s.get? n := by
  obtain ⟨layers⟩ := s
  cases layers with
  | nil =>
    rw [write, get?_singleton, Layer.get?_cons]
    rfl
  | cons layer rest =>
    rw [write, get?, get?, List.findSome?_cons, List.findSome?_cons, Layer.get?_insert]
    by_cases h : n = name
    · rw [if_pos h, if_pos h]
    · rw [if_neg h, if_neg h]

/-- Registering stops at the first entry that may not be registered; what comes before it is found,
the last one of a name first. -/
theorem get?_extend (s : Scope FuncValue) (funcs : List (String × FuncValue)) (n : String) :
    (s.extend funcs).1.get? n =
      ((funcs.takeWhile isRegistrable).reverse.lookup n).or (s.get? n) := by
  induction funcs generalizing s with
  | nil => rfl
  | cons e rest ih =>
    rw [extend, set, List.takeWhile_cons, isRegistrable]
    cases checkEntry e.1 e.2 with
    | error fault => rfl
    | ok _ =>
      show ((s.write e.1 e.2).extend rest).1.get? n = _
      rw [ih, get?_write, if_pos rfl, List.reverse_cons, List.lookup_append, Option.or_assoc]
      congr 1
      rw [List.lookup_cons, List.lookup_nil]
      by_cases h : n = e.1
      · rw [if_pos h, beq_iff_eq.mpr h]
        rfl
      · rw [if_neg h, beq_eq_false_iff_ne.mpr h]
        rfl

/-- Registering fails exactly if there is an entry that may not be registered. -/
theorem extend_eq_none_iff (s : Scope FuncValue) (funcs : List (String × FuncValue)) :
    (s.extend funcs).2 = none ↔ ∀ e ∈ funcs, isRegistrable e = true := by
  induction funcs generalizing s with
  | nil => simp [extend]
  | cons e rest ih =>
    rw [extend, set, List.forall_mem_cons, isRegistrable]
    cases checkEntry e.1 e.2 with
    | error fault => simp [Except.map]
    | ok _ => exact (ih _).trans (iff_and_self.mpr fun _ ↦ rfl)

end Scope

/-! ### Changes -/

/-- What changes a set: a body is added under its name, or functions are given to a name. -/
inductive Change where
  | body (tree : Tree)
  | funcs (name : String) (entries : List (String × FuncValue))

namespace Change

/-- The name that a change is about. -/
def name : Change → String
  | body tree => tree.name
  | funcs name _ => name

/-- What a change makes of the template of its name. -/
def revise : Change → Template → Template
  | body tree, t => if t.yieldsTo tree then { t with tree := some tree } else t
  | funcs _ entries, t => { t with funcs := (t.funcs.extend entries).1 }

/-- The body that a change adds. -/
def body? : Change → Option Tree
  | body tree => some tree
  | funcs _ _ => none

/-- The functions that a change registers: those before the first one that may not be. -/
def registered : Change → List (String × FuncValue)
  | body _ => []
  | funcs _ entries => entries.takeWhile isRegistrable

/-- A template keeps its name when it is changed. -/
@[simp] theorem name_revise (c : Change) (t : Template) : (c.revise t).name = t.name := by
  cases c with
  | body tree =>
    rw [revise]
    split
    · rfl
    · rfl
  | funcs _ entries => rfl

end Change

/-- The last body with content, or the last one if none has content. -/
def lastBody (bodies : List Tree) : Option Tree :=
  (bodies.reverse.find? fun tree ↦ !tree.isEmpty).or bodies.getLast?

namespace TemplateSet

/-- A set after a change. -/
def change (s : TemplateSet) : Change → TemplateSet
  | .body tree => (s.add tree).2
  | .funcs name entries => (s.addFuncs name entries).1

/-- A set after changes, one after the other. -/
def after (s : TemplateSet) (changes : List Change) : TemplateSet := changes.foldl change s

private theorem lookup_put (s : TemplateSet) (t : Template) (name : String) :
    (s.put t).lookup name = if name = t.name then some t else s.lookup name :=
  Layer.get?_insert ..

/-- The templates of a set have the names that they are found under. -/
def Named (s : TemplateSet) : Prop := ∀ name t, s.lookup name = some t → t.name = name

variable {s : TemplateSet}

private theorem named_empty (setName : String) : (empty setName).Named := fun _ _ h ↦ (nomatch h)

private theorem Named.entry_name (h : s.Named) (name : String) : (s.entry name).name = name := by
  rw [entry]
  cases ht : s.lookup name with
  | none => rfl
  | some t => exact h name t ht

/-- A change revises the template of its name, and no other. -/
theorem Named.lookup_change (h : s.Named) (c : Change) (name : String) :
    (s.change c).lookup name =
      if name = c.name then some (c.revise (s.entry name)) else s.lookup name := by
  have hput : s.change c = s.put (c.revise (s.entry c.name)) := by
    cases c with
    | body tree | funcs _ entries => rfl
  rw [hput, lookup_put, Change.name_revise, h.entry_name]
  split
  · next hn => rw [hn]
  · rfl

private theorem Named.change (h : s.Named) (c : Change) : (s.change c).Named := by
  intro name t ht
  rw [h.lookup_change] at ht
  split at ht
  · cases ht
    rw [Change.name_revise, h.entry_name]
  · exact h name t ht

end TemplateSet

/-! ### The history of one name -/

/-- What a change makes of what a name has so far. -/
def Change.onto (name : String) (found : Option Template) (c : Change) : Option Template :=
  some (c.revise (found.getD (.declared name)))

/-- Only the changes of a name matter to it. -/
theorem TemplateSet.Named.lookup_after_eq {s : TemplateSet} (h : s.Named) (changes : List Change)
    (name : String) :
    (s.after changes).lookup name =
      (changes.filter fun c ↦ c.name == name).foldl (Change.onto name) (s.lookup name) := by
  induction changes generalizing s with
  | nil => rfl
  | cons c rest ih =>
    show ((s.change c).after rest).lookup name = _
    rw [ih (h.change c), h.lookup_change, List.filter_cons]
    by_cases hn : name = c.name
    · rw [if_pos hn, if_pos (beq_iff_eq.mpr hn.symm), List.foldl_cons]
      rfl
    · rw [if_neg hn, if_neg fun hb ↦ hn (beq_iff_eq.mp hb).symm]

section

variable (name : String) (changes : List Change)

private theorem isSome_foldl_onto :
    (changes.foldl (Change.onto name) none).isSome = true ↔ changes ≠ [] := by
  cases changes using List.reverseRecOn with
  | nil => simp
  | append_singleton changes c => simp [Change.onto]

/-- A body takes the place of the last one unless it alone of the two has no content. -/
theorem lastBody_append (bodies : List Tree) (tree : Tree) :
    lastBody (bodies ++ [tree]) =
      match lastBody bodies with
      | some old => some (if old.isEmpty || !tree.isEmpty then tree else old)
      | none => some tree := by
  have hlast : lastBody (bodies ++ [tree]) =
      ([tree].find? fun t ↦ !t.isEmpty).or
        ((bodies.reverse.find? fun t ↦ !t.isEmpty).or (some tree)) := by
    rw [lastBody, List.reverse_append, List.find?_append, List.getLast?_append, Option.or_assoc]
    rfl
  rw [hlast, List.find?_singleton]
  cases hf : bodies.reverse.find? fun t ↦ !t.isEmpty with
  | some old =>
    have hold : old.isEmpty = false := by simpa using List.find?_some hf
    have hbodies : lastBody bodies = some old := by
      rw [lastBody, hf]
      rfl
    rw [hbodies]
    cases h : tree.isEmpty with
    | true | false => simp [hold]
  | none =>
    have hbodies : lastBody bodies = bodies.getLast? := by
      rw [lastBody, hf]
      rfl
    rw [hbodies]
    cases hl : bodies.getLast? with
    | none =>
      cases tree.isEmpty with
      | true | false => rfl
    | some old =>
      -- no body before has content
      have hm : old ∈ bodies.reverse := List.mem_reverse.mpr (List.mem_of_getLast? hl)
      have hold : old.isEmpty = true := by simpa using List.find?_eq_none.mp hf old hm
      cases tree.isEmpty with
      | true | false => simp [hold]

private theorem bind_tree_foldl_onto :
    (changes.foldl (Change.onto name) none).bind Template.tree =
      lastBody (changes.filterMap Change.body?) := by
  induction changes using List.reverseRecOn with
  | nil => rfl
  | append_singleton changes c ih =>
    rw [List.foldl_append, List.filterMap_append]
    generalize changes.foldl (Change.onto name) none = found at ih ⊢
    have htree : (found.getD (.declared name)).tree =
        lastBody (changes.filterMap Change.body?) := by
      rw [← ih]
      cases found with
      | none | some t => rfl
    cases c with
    | funcs _ entries =>
      show (found.getD (.declared name)).tree = lastBody (changes.filterMap Change.body? ++ [])
      rw [htree, List.append_nil]
    | body tree =>
      show (Change.revise (.body tree) (found.getD (.declared name))).tree =
        lastBody (changes.filterMap Change.body? ++ [tree])
      rw [lastBody_append, Change.revise, Template.yieldsTo, htree]
      cases hl : lastBody (changes.filterMap Change.body?) with
      | none => rfl
      | some old =>
        dsimp only
        split
        · rfl
        · rw [htree, hl]

private theorem bind_get?_foldl_onto (found : Option Template) (f : String) :
    ((changes.foldl (Change.onto name) found).bind fun t ↦ t.funcs.get? f) =
      ((changes.flatMap Change.registered).reverse.lookup f).or
        (found.bind fun t ↦ t.funcs.get? f) := by
  induction changes generalizing found with
  | nil => rfl
  | cons c rest ih =>
    rw [List.foldl_cons, ih, List.flatMap_cons, List.reverse_append, List.lookup_append,
      Option.or_assoc]
    congr 1
    have hfuncs : (found.getD (.declared name)).funcs.get? f =
        found.bind fun t ↦ t.funcs.get? f := by
      cases found with
      | none | some t => rfl
    cases c with
    | body tree =>
      show (Change.revise (.body tree) (found.getD (.declared name))).funcs.get? f = _
      rw [Change.revise, ← hfuncs]
      split
      · rfl
      · rfl
    | funcs _ entries => exact (Scope.get?_extend ..).trans (congrArg _ hfuncs)

end

/-- What a name has is told by the history of its own changes. It is known if there was one. Its
body is the last one with content, or else the last one, so that white space never takes the place
of content; its functions are all that were registered for it and no others, the latest of a name,
whatever bodies came in between. Where giving functions fails, those before the first that may not
be registered stay. -/
theorem TemplateSet.lookup_after (setName name : String) (changes : List Change) :
    let own := changes.filter fun c ↦ c.name == name
    let found := ((empty setName).after changes).lookup name
    (found.isSome = true ↔ own ≠ []) ∧
    found.bind Template.tree = lastBody (own.filterMap Change.body?) ∧
    (∀ tree : Tree, tree.isEmpty = false ↔ Node.Content tree.root) ∧
    (∀ f, (found.bind fun t ↦ t.funcs.get? f) =
      (own.flatMap Change.registered).reverse.lookup f) ∧
    (∀ (s : TemplateSet) (entries : List (String × FuncValue)),
      (s.addFuncs name entries).2 = none ↔ ∀ e ∈ entries, isRegistrable e = true) ∧
    found = ((empty setName).after own).lookup name := by
  intro own found
  have hown : own.filter (fun c ↦ c.name == name) = own := by
    rw [List.filter_filter]
    simp only [Bool.and_self, own]
  have hfound : found = own.foldl (Change.onto name) none :=
    (named_empty setName).lookup_after_eq changes name
  refine ⟨?_, ?_, fun tree ↦ Node.allBlank_eq_false_iff tree.root, ?_,
    fun s entries ↦ Scope.extend_eq_none_iff .., ?_⟩
  · rw [hfound]
    exact isSome_foldl_onto name own
  · rw [hfound]
    exact bind_tree_foldl_onto name own
  · intro f
    rw [hfound, bind_get?_foldl_onto]
    exact Option.or_none
  · rw [(named_empty setName).lookup_after_eq own name, hown]
    exact hfound

end TextTemplate
