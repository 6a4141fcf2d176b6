import TextTemplate.Proofs.Answering
import TextTemplate.Proofs.Pieces

/-!
# Joined lists

What options say about the text between items (`Join.Says`), and the text of items with it between
them (`Join.joined`). A list is joined by writing that text, and an option with a key that means
nothing keeps everything from being written (`Join.join_writes`).
-/

set_option autoImplicit false

namespace TextTemplate.Join

variable {host : Host} {v : Value} {xs opts : List Value} {cell : Option Nat} {style : Style}

/-! ### Options -/

/-- What an option sets, or its key if that means nothing. -/
inductive Setting where
  | separator (s : String)
  | beforeLast (s : String)
  | unknown (key : String)

/-- What the text of an option says. Up to its first colon it is a key, among white space; without
a colon it is a separator. -/
inductive Says : String → Setting → Prop where
  | plain {opt : String} : ':' ∉ opt.toList → Says opt (.separator opt)
  | separator {key value : String} :
      ':' ∉ key.toList → Text.trim key = "sep" → Says (key ++ ":" ++ value) (.separator value)
  | beforeLast {key value : String} : ':' ∉ key.toList → Text.trim key = "and" → value ≠ "" →
      Says (key ++ ":" ++ value) (.beforeLast value)
  | usual {key : String} :
      ':' ∉ key.toList → Text.trim key = "and" → Says (key ++ ":") (.beforeLast " and ")
  | unknown {key value : String} : ':' ∉ key.toList → Text.trim key ≠ "sep" →
      Text.trim key ≠ "and" → Says (key ++ ":" ++ value) (.unknown (Text.trim key))

/-- What arguments say one after the other. Those that are no texts say nothing. -/
inductive Reads : List Value → List Setting → Prop where
  | nil : Reads [] []
  | skip {v : Value} {opts : List Value} {settings : List Setting} :
      v.asText? = none → Reads opts settings → Reads (v :: opts) settings
  | cons {opt : String} {x : Setting} {opts : List Value} {settings : List Setting} :
      Says opt x → Reads opts settings → Reads (.text opt :: opts) (x :: settings)

/-- The error for a key that means nothing. -/
def invalidOption (key : String) : EvalError := .new ("invalid join option " ++ Text.quote key)

namespace Setting

def separator? : Setting → Option String
  | separator s => some s
  | _ => none

def beforeLast? : Setting → Option String
  | beforeLast s => some s
  | _ => none

/-- A style with a setting. -/
def apply (style : Style) : Setting → Except EvalError Style
  | separator s => .ok { style with separator := s }
  | beforeLast s => .ok { style with beforeLast := some s }
  | unknown key => .error (invalidOption key)

end Setting

/-- The last separator that is given. -/
def lastSeparator (settings : List Setting) : String :=
  (settings.filterMap Setting.separator?).getLast?.getD ", "

/-- The last text that is given for the place before the last item, which otherwise is separated
like the others. -/
def lastBefore (settings : List Setting) : String :=
  (settings.filterMap Setting.beforeLast?).getLast?.getD (lastSeparator settings)

private theorem splitColon_of_notMem {opt : String} (h : ':' ∉ opt.toList) :
    splitColon opt = none := by
  have hdrop : opt.toList.dropWhile (· ≠ ':') = [] := by
    rw [List.dropWhile_eq_nil_iff]
    intro c hc
    rw [decide_eq_true_iff]
    rintro rfl
    exact h hc
  simp only [splitColon, hdrop]

private theorem splitColon_append {key value : String} (h : ':' ∉ key.toList) :
    splitColon (key ++ ":" ++ value) = some (key, value) := by
  have hkey : ∀ c ∈ key.toList, decide (c ≠ ':') = true := by
    intro c hc
    rw [decide_eq_true_iff]
    rintro rfl
    exact h hc
  have htext : (key ++ ":" ++ value).toList = key.toList ++ ':' :: value.toList := by
    simp
  have htake : (key.toList ++ ':' :: value.toList).takeWhile (· ≠ ':') = key.toList := by
    rw [List.takeWhile_append_of_pos hkey, List.takeWhile_cons_of_neg (by simp), List.append_nil]
  have hdrop : (key.toList ++ ':' :: value.toList).dropWhile (· ≠ ':') = ':' :: value.toList := by
    rw [List.dropWhile_append_of_pos hkey, List.dropWhile_cons_of_neg (by simp)]
  simp only [splitColon, htext, htake, hdrop, String.ofList_toList]

/-- Every text says something. -/
theorem exists_says (opt : String) : ∃ x, Says opt x := by
  by_cases h : ':' ∈ opt.toList
  · obtain ⟨before, rest, hsplit, hbefore⟩ := List.eq_append_cons_of_mem h
    obtain ⟨key, hkey⟩ : ∃ key : String, key.toList = before := ⟨_, String.toList_ofList⟩
    obtain ⟨value, hvalue⟩ : ∃ value : String, value.toList = rest := ⟨_, String.toList_ofList⟩
    obtain rfl : opt = key ++ ":" ++ value := by
      rw [← String.toList_inj, hsplit, ← hkey, ← hvalue]
      simp
    rw [← hkey] at hbefore
    by_cases hsep : Text.trim key = "sep"
    · exact ⟨_, .separator hbefore hsep⟩
    · by_cases hand : Text.trim key = "and"
      · by_cases hempty : value = ""
        · rw [hempty, String.append_empty]
          exact ⟨_, .usual hbefore hand⟩
        · exact ⟨_, .beforeLast hbefore hand hempty⟩
      · exact ⟨_, .unknown hbefore hsep hand⟩
  · exact ⟨_, .plain h⟩

private theorem apply_of_says {opt : String} {x : Setting} (h : Says opt x) :
    style.apply opt = x.apply style := by
  cases h with
  | plain hopt => rw [Style.apply, splitColon_of_notMem hopt]; rfl
  | separator hkey hsep => simp [Style.apply, splitColon_append hkey, hsep, Setting.apply]
  | beforeLast hkey hand hvalue =>
    simp [Style.apply, splitColon_append hkey, hand, hvalue, Setting.apply]
  | @usual key hkey hand =>
    have hsplit : splitColon (key ++ ":" ++ "") = some (key, "") := splitColon_append hkey
    rw [String.append_empty] at hsplit
    simp [Style.apply, hsplit, hand, Setting.apply, defaultBeforeLast]
  | unknown hkey hsep hand =>
    simp [Style.apply, splitColon_append hkey, hsep, hand, Setting.apply, invalidOption]

private theorem applyAll_text {opt : String} {x : Setting} (h : Says opt x) :
    style.applyAll (.text opt :: opts) = x.apply style >>= (·.applyAll opts) := by
  rw [← apply_of_says h]
  rfl

private theorem exists_reads (opts : List Value) : ∃ settings, Reads opts settings := by
  induction opts with
  | nil => exact ⟨[], .nil⟩
  | cons v opts ih =>
    obtain ⟨settings, h⟩ := ih
    cases v with
    | text opt =>
      obtain ⟨x, hx⟩ := exists_says opt
      exact ⟨x :: settings, .cons hx h⟩
    | _ => exact ⟨settings, .skip rfl h⟩

/-- A key that means nothing is an error, wherever it stands. -/
theorem applyAll_of_unknown {settings : List Setting} (h : Reads opts settings) (style : Style)
    (hunknown : ∃ key, .unknown key ∈ settings) :
    ∃ key, .unknown key ∈ settings ∧ style.applyAll opts = .error (invalidOption key) := by
  induction h generalizing style with
  | nil => obtain ⟨_, ⟨⟩⟩ := hunknown
  | skip hv _ ih =>
    obtain ⟨key, hkey, happly⟩ := ih style hunknown
    exact ⟨key, hkey, by rw [Style.applyAll, hv]; exact happly⟩
  | @cons opt x opts settings hx _ ih =>
    rw [applyAll_text hx]
    have later (style : Style) (hunknown : ∃ key, .unknown key ∈ settings) : ∃ key,
        .unknown key ∈ x :: settings ∧ style.applyAll opts = .error (invalidOption key) := by
      obtain ⟨key, hkey, happly⟩ := ih style hunknown
      exact ⟨key, List.mem_cons_of_mem _ hkey, happly⟩
    cases x with
    | unknown key => exact ⟨key, List.mem_cons_self, rfl⟩
    | separator s => exact later _ (by simpa using hunknown)
    | beforeLast s => exact later _ (by simpa using hunknown)

/-- Of several settings the last one counts. -/
theorem applyAll_eq_ok {settings : List Setting} (h : Reads opts settings)
    (hknown : ∀ key, .unknown key ∉ settings) :
    style.applyAll opts = .ok
      ⟨(settings.filterMap Setting.separator?).getLast?.getD style.separator,
        (settings.filterMap Setting.beforeLast?).getLast?.or style.beforeLast⟩ := by
  induction h generalizing style with
  | nil => rfl
  | skip hv _ ih =>
    rw [Style.applyAll, hv]
    exact ih hknown
  | @cons opt x opts settings hx _ ih =>
    have hrest (key : String) : .unknown key ∉ settings :=
      fun hkey ↦ hknown key (List.mem_cons_of_mem _ hkey)
    rw [applyAll_text hx]
    cases x with
    | unknown key => exact absurd List.mem_cons_self (hknown key)
    | separator s =>
      refine (ih hrest).trans ?_
      simp [Setting.separator?, Setting.beforeLast?, List.getLast?_cons]
    | beforeLast s =>
      refine (ih hrest).trans ?_
      simp [Setting.separator?, Setting.beforeLast?, List.getLast?_cons]

/-- The style that options give. -/
theorem applyAll_default {settings : List Setting} (h : Reads opts settings)
    (hknown : ∀ key, .unknown key ∉ settings) :
    ∃ style, Style.default.applyAll opts = .ok style ∧
      style.separator = lastSeparator settings ∧
        style.beforeLast.getD style.separator = lastBefore settings := by
  refine ⟨_, applyAll_eq_ok h hknown, rfl, ?_⟩
  show Option.getD (Option.or _ none) _ = _
  rw [Option.or_none]
  rfl

/-! ### Items -/

/-- Texts with a separator between them, and another one before the last. -/
def joined (separator before : String) : List String → String
  | [] => ""
  | [x] => x
  | [x, y] => x ++ before ++ y
  | x :: y :: z :: rest => x ++ separator ++ joined separator before (y :: z :: rest)

private theorem join_separated (separator : String) (items : List Value) :
    String.join (separated separator items) = separator.intercalate (items.map Value.argText) := by
  induction items with
  | nil => simp [separated]
  | cons v rest ih =>
    cases rest with
    | nil => simp [separated]
    | cons w rest =>
      rw [separated, String.join_cons, String.join_cons, ih, ← String.append_assoc]
      · simp only [List.map_cons, String.intercalate_cons_cons]
      · exact List.cons_ne_nil _ _

/-- Where the same text stands between all items there is one separator. -/
theorem joined_self (separator : String) (xs : List String) :
    joined separator separator xs = separator.intercalate xs := by
  induction xs with
  | nil => simp [joined]
  | cons x rest ih =>
    match rest with
    | [] => simp [joined]
    | [y] => simp [joined]
    | y :: z :: rest => rw [joined, ih, ← String.intercalate_cons_cons]

/-- The last of several items comes after its own text. -/
theorem joined_concat (separator before x : String) {init : List String} (h : init ≠ []) :
    joined separator before (init ++ [x]) = separator.intercalate init ++ before ++ x := by
  induction init with
  | nil => exact absurd rfl h
  | cons y rest ih =>
    cases rest with
    | nil => simp [joined]
    | cons z rest =>
      have hstep : joined separator before (y :: z :: rest ++ [x]) =
          y ++ separator ++ joined separator before (z :: rest ++ [x]) := by
        cases rest with
        | nil => rfl
        | cons u rest => rfl
      rw [hstep, ih (List.cons_ne_nil z rest), String.intercalate_cons_cons]
      simp only [String.append_assoc]

/-- The texts that are written for a list are those of its items joined. -/
theorem join_texts (style : Style) (items : List Value) :
    String.join (texts style items) =
      joined style.separator (style.beforeLast.getD style.separator) (items.map Value.argText) := by
  obtain ⟨separator, before⟩ := style
  obtain rfl | ⟨init, last, rfl⟩ := List.eq_nil_or_concat' items
  · cases before <;> rfl
  · rw [List.map_append, List.map_singleton]
    cases before with
    | none =>
      show String.join (separated separator (init ++ [last])) = joined separator separator _
      rw [join_separated, joined_self, List.map_append, List.map_singleton]
    | some word =>
      rw [texts]
      simp only [List.getLast?_concat, List.dropLast_concat, Option.getD_some]
      by_cases hinit : init = []
      · rw [hinit]
        simp [separated, joined]
      · have hmap : init.map Value.argText ≠ [] := by simpa using hinit
        have hseveral : 1 < (init ++ [last]).length := by
          have := List.length_pos_iff.mpr hinit
          rw [List.length_append, List.length_singleton]
          omega
        rw [if_pos hseveral, joined_concat _ _ _ hmap, String.join_append, join_separated]
        simp [String.append_assoc]

/-- The program of a list and options that set a style. -/
theorem run_eq (host : Host) (h : v.indirect = .list xs cell) (s : State) :
    Builtin.run host .join (v :: opts) s =
      match Style.default.applyAll opts with
      | .error e => .done (.error e, s)
      | .ok style => Walk.program host (.writeAll (.done .nothing) (texts style xs)) s := by
  have haccepts : (Builtin.arity .join).accepts (v :: opts).length = true := by
    simp [Builtin.arity, Arity.accepts, Arity.atLeast]
  rw [Builtin.run_of_accepts haccepts]
  show Walk.program host (program (v :: opts)) s = _
  rw [program, List.headD_cons, items, h]
  simp only [List.tail_cons]
  cases Style.default.applyAll opts <;> rfl

/-- A list is joined by writing its items with the texts between them that the last options give,
whatever the output is; with an option whose key means nothing it is not written at all. -/
theorem join_writes (host : Host) (h : v.indirect = .list xs cell) (opts : List Value) :
    (∃ settings, Reads opts settings) ∧
    ∀ settings, Reads opts settings → ∀ s,
      ((∃ key, .unknown key ∈ settings) → ∃ key, .unknown key ∈ settings ∧
        Builtin.run host .join (v :: opts) s = .done (.error (invalidOption key), s)) ∧
      ((∀ key, .unknown key ∉ settings) →
        let text := joined (lastSeparator settings) (lastBefore settings) (xs.map Value.argText)
        (∀ r, (Builtin.run host .join (v :: opts) s).Ends host r ↔
          ((Walk.writeText text >>= fun _ ↦ pure .nothing) s).Ends host r) ∧
        (s.sinks = [] → s.writer.capacity = none →
          (Builtin.run host .join (v :: opts) s).Ends host (.ok .nothing,
            { s with writer := { s.writer with written := s.writer.written ++ text.toUTF8 } })) ∧
        ∀ held rest, s.sinks = .buffer held :: rest →
          (Builtin.run host .join (v :: opts) s).Ends host (.ok .nothing,
            { s with sinks := .buffer (held ++ text.toUTF8) :: rest })) := by
  refine ⟨exists_reads opts, fun settings hreads s ↦ ⟨fun hunknown ↦ ?_, fun hknown ↦ ?_⟩⟩
  · obtain ⟨key, hkey, happly⟩ := applyAll_of_unknown hreads .default hunknown
    exact ⟨key, hkey, by rw [run_eq host h, happly]⟩
  · intro text
    have hends (r : Outcome Results × State) : (Builtin.run host .join (v :: opts) s).Ends host r ↔
        ((Walk.writeText text >>= fun _ ↦ pure .nothing) s).Ends host r := by
      obtain ⟨style, happly, hseparator, hbefore⟩ := applyAll_default hreads hknown
      rw [run_eq host h, happly]
      exact (Walk.program_writeAll _ _ s).trans (by rw [join_texts, hbefore, hseparator])
    refine ⟨hends, fun hs hcapacity ↦ ?_, fun held rest hs ↦ ?_⟩
    · have hwrite : Walk.writeText text s = .done (.ok (),
          { s with writer := { s.writer with written := s.writer.written ++ text.toUTF8 } }) := by
        have hlevel : s.sinks.length = 0 := congrArg List.length hs
        rw [Walk.writeText, Walk.write_eq, hlevel, Walk.writeLevel, Walk.writeBottom,
          Writer.write_of_capacity hcapacity]
      rw [hends, Walk.bind_of_done hwrite]
      exact .done _
    · have hwrite : Walk.writeText text s = .done (.ok (),
          { s with sinks := .buffer (held ++ text.toUTF8) :: rest }) := by
        rw [Walk.writeText, Walk.write_eq, hs, List.length_cons]
        have hsinks : s.sinks = [] ++ .buffer held :: rest := hs
        exact Walk.writeLevel_buffer hsinks
      rw [hends, Walk.bind_of_done hwrite]
      exact .done _

/-- Three items with a text of its own before the last one; an option after good ones whose key
means nothing keeps them from being written. -/
theorem join_writes_three :
    let items := Value.list [.text "a", .int 2, .text "c"] none
    (Builtin.run .empty .join [items, .text "sep:; ", .bool true, .text " and :"] .blank).Ends
        .empty (.ok .nothing, { State.blank with writer := ⟨"a; 2 and c".toUTF8, none⟩ }) ∧
      ∃ e, Builtin.run .empty .join [items, .text "; ", .text "or: or "] .blank =
        .done (.error e, .blank) := by
  intro items
  have h : items.indirect = .list [.text "a", .int 2, .text "c"] none := rfl
  have hsep : Says "sep:; " (.separator "; ") := by
    rw [show "sep:; " = "sep" ++ ":" ++ "; " by decide]
    exact .separator (by decide) (by decide)
  have hand : Says " and :" (.beforeLast " and ") := by
    rw [show " and :" = " and " ++ ":" by decide]
    exact .usual (by decide) (by decide)
  have hor : Says "or: or " (.unknown (Text.trim "or")) := by
    rw [show "or: or " = "or" ++ ":" ++ " or " by decide]
    exact .unknown (by decide) (by decide) (by decide)
  refine ⟨?_, ?_⟩
  · have hreads : Reads [.text "sep:; ", .bool true, .text " and :"]
        [.separator "; ", .beforeLast " and "] := .cons hsep (.skip rfl (.cons hand .nil))
    obtain ⟨-, hends, -⟩ := ((join_writes .empty h _).2 _ hreads .blank).2 (by simp)
    have htext : joined (lastSeparator [.separator "; ", .beforeLast " and "])
        (lastBefore [.separator "; ", .beforeLast " and "])
        ([.text "a", .int 2, .text "c"].map Value.argText) = "a; 2 and c" := by decide +kernel
    have hwritten : State.blank.writer.written ++ "a; 2 and c".toUTF8 = "a; 2 and c".toUTF8 :=
      ByteArray.empty_append
    rw [htext, hwritten] at hends
    exact hends rfl rfl
  · have hreads : Reads [.text "; ", .text "or: or "]
        [.separator "; ", .unknown (Text.trim "or")] :=
      .cons (.plain (by decide)) (.cons hor .nil)
    obtain ⟨key, -, herror⟩ :=
      ((join_writes .empty h _).2 _ hreads .blank).1 ⟨Text.trim "or", by simp⟩
    exact ⟨_, herror⟩

end TextTemplate.Join
