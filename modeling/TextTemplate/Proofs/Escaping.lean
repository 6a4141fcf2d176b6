import Mathlib.Data.Bool.AllAny
import TextTemplate.Number.Reader
import TextTemplate.Program.Call

/-!
# Escaped texts

Each of the three ways to escape a text is undone by a reader: of the bytes of a query
(`Text.readQuery`), of the characters of a quoted string (`Text.readString`) and of the entities in
a page (`Text.unescapePage`). All readers go from left to right, so it is enough that they take up
what is written for one character, whatever comes after it. What is written has none of the
characters that mean something where it is put (`Text.escapes_reversible`).
-/

set_option autoImplicit false

namespace TextTemplate.Text

variable {c d : Char} {cs rest before after : List Char} {n : Nat}

/-! ### Reading from left to right -/

/-- A reader that takes up what is written for one element takes up what is written for several. -/
theorem read_flatMap {α β : Type} (read : List Char → Option (List β)) {write : α → List Char}
    (f : α → β) (hnil : read [] = some [])
    (hcons : ∀ a rest, read (write a ++ rest) = (read rest).map (f a :: ·)) (as : List α) :
    read (as.flatMap write) = some (as.map f) := by
  induction as with
  | nil => exact hnil
  | cons a as ih =>
    rw [List.flatMap_cons, hcons, ih]
    rfl

/-- What holds of the characters that are written for each element holds of all that is written. -/
theorem forall_mem_written {α : Type} {write : α → List Char} {P : Char → Prop}
    (h : ∀ a, ∀ c ∈ write a, P c) (as : List α) :
    ∀ c ∈ (String.ofList (as.flatMap write)).toList, P c := by
  intro c hc
  rw [String.toList_ofList, List.mem_flatMap] at hc
  obtain ⟨a, -, hc⟩ := hc
  exact h a c hc

private theorem digitValue?_upperHexDigit (h : n < 16) :
    Number.digitValue? 16 (upperHexDigit n) = some n := by
  have hall : ∀ n < 16, Number.digitValue? 16 (upperHexDigit n) = some n := by decide
  exact hall n h

/-! ### Queries -/

/-- The bytes that a query stands for: a plus sign is a space, and a percent sign comes with two
digits of base 16. Characters beyond ASCII have no place in a query. -/
def readQuery : List Char → Option (List UInt8)
  | [] => some []
  | '%' :: a :: b :: rest => do
    let x ← Number.digitValue? 16 a
    let y ← Number.digitValue? 16 b
    (readQuery rest).map (UInt8.ofNat (16 * x + y) :: ·)
  | c :: rest =>
    if c = '%' ∨ 128 ≤ c.toNat then none
    else (readQuery rest).map ((if c = '+' then 32 else UInt8.ofNat c.toNat) :: ·)

/-- What is promised of a text in a query. -/
structure StandsInQuery (s out : String) : Prop where
  reads : readQuery out.toList = some s.toUTF8.toList
  safe : ∀ c ∈ out.toList, c.isAlphanum = true ∨ c ∈ ['-', '_', '.', '~', '+', '%']

private theorem of_isUnreserved {b : UInt8} (h : isUnreserved b = true) :
    (Char.ofNat b.toNat).toNat = b.toNat ∧ ¬ (Char.ofNat b.toNat = '%' ∨ 128 ≤ b.toNat) ∧
      Char.ofNat b.toNat ≠ '+' := by
  have hall : ∀ n < 256, isUnreserved (UInt8.ofNat n) = true → (Char.ofNat n).toNat = n ∧
      ¬ (Char.ofNat n = '%' ∨ 128 ≤ n) ∧ Char.ofNat n ≠ '+' := by decide +kernel
  exact hall b.toNat b.toNat_lt (by rwa [UInt8.ofNat_toNat])

private theorem readQuery_escapeQueryByte (b : UInt8) (rest : List Char) :
    readQuery (escapeQueryByte b ++ rest) = (readQuery rest).map (b :: ·) := by
  unfold escapeQueryByte
  split
  · next h =>
    obtain ⟨hc, hplain, hplus⟩ := of_isUnreserved h
    rw [List.singleton_append, readQuery]
    · rw [hc, if_neg hplain, if_neg hplus, UInt8.ofNat_toNat]
    · rintro _ _ _ h -
      exact hplain (.inl h)
  · split
    · next h =>
      subst h
      rw [List.singleton_append, readQuery]
      · rfl
      · rintro _ _ _ h -
        cases h
    · have hbyte : UInt8.ofNat (16 * (b.toNat / 16) + b.toNat % 16) = b := by
        rw [Nat.div_add_mod, UInt8.ofNat_toNat]
      have hlt := b.toNat_lt
      have hhigh := digitValue?_upperHexDigit (show b.toNat / 16 < 16 by omega)
      have hlow := digitValue?_upperHexDigit (Nat.mod_lt b.toNat (by decide : 0 < 16))
      simp only [List.cons_append, List.nil_append, readQuery, hhigh, hlow, Option.bind_eq_bind,
        Option.bind_some, hbyte]

private theorem safe_of_mem_escapeQueryByte {b : UInt8} (hc : c ∈ escapeQueryByte b) :
    c.isAlphanum = true ∨ c ∈ ['-', '_', '.', '~', '+', '%'] := by
  have hall : ∀ n < 256, (escapeQueryByte (UInt8.ofNat n)).all fun c ↦
      c.isAlphanum = true ∨ c ∈ ['-', '_', '.', '~', '+', '%'] := by decide +kernel
  exact List.all_iff_forall_prop.mp (hall b.toNat b.toNat_lt) c (by rwa [UInt8.ofNat_toNat])

/-- An escaped text can stand in a query. -/
theorem standsInQuery (s : String) : StandsInQuery s (escapeQuery s) where
  reads := by
    rw [escapeQuery, String.toList_ofList,
      read_flatMap readQuery id rfl readQuery_escapeQueryByte, List.map_id]
  safe := forall_mem_written (fun _ _ ↦ safe_of_mem_escapeQueryByte) s.toUTF8.toList

/-! ### Quoted strings of scripts -/

/-- A character of a quoted string, as it is or by an escape. -/
inductive Quoted where
  | bare (c : Char)
  | escaped (c : Char)
deriving DecidableEq

/-- The character. -/
def Quoted.char : Quoted → Char
  | bare c | escaped c => c

/-- What a character stands for behind a backslash. -/
def escapedChar : Char → Char
  | 'b' => '\x08'
  | 't' => '\t'
  | 'n' => '\n'
  | 'v' => '\x0b'
  | 'f' => '\x0c'
  | 'r' => '\r'
  | c => c

/-- The characters of a quoted string. Of the escapes by numbers, those of four digits are read,
unless they are halves of a pair; a line that goes on behind a backslash is not read. -/
def readQuoted : List Char → Option (List Quoted)
  | [] => some []
  | '\\' :: 'u' :: a :: b :: c :: d :: rest => do
    let w ← Number.digitValue? 16 a
    let x ← Number.digitValue? 16 b
    let y ← Number.digitValue? 16 c
    let z ← Number.digitValue? 16 d
    let n := 4096 * w + 256 * x + 16 * y + z
    if n.isValidChar then (readQuoted rest).map (.escaped (Char.ofNat n) :: ·) else none
  | '\\' :: c :: rest =>
    if c.isDigit ∨ c ∈ ['x', 'u', '\n', '\r', '\u2028', '\u2029'] then none
    else (readQuoted rest).map (.escaped (escapedChar c) :: ·)
  | c :: rest => if c = '\\' then none else (readQuoted rest).map (.bare c :: ·)

/-- The text of a quoted string, in which neither the quote nor an end of a line stands as it
is. -/
def readString (quote : Char) (body : List Char) : Option (List Char) := do
  let cs ← readQuoted body
  if .bare quote ∈ cs ∨ .bare '\n' ∈ cs ∨ .bare '\r' ∈ cs then none else cs.map Quoted.char

/-- What is promised of a text in a quoted string of a script. -/
structure StandsInScript (s out : String) : Prop where
  reads : ∀ quote ∈ ['"', '\''], readString quote out.toList = some s.toList
  quoted : ∀ cs, readQuoted out.toList = some cs → .bare '"' ∉ cs ∧ .bare '\'' ∉ cs
  safe : ∀ c ∈ out.toList, c ∉ ['<', '>', '&', '='] ∧ 32 ≤ c.toNat ∧
    ¬ (127 ≤ c.toNat ∧ c.toNat < 160)

private theorem toNat_of_isControl (h : isControl c = true) : c.toNat < 160 := by
  simp only [isControl, Bool.or_eq_true, Bool.and_eq_true, decide_eq_true_eq] at h
  omega

/-- A character is written behind a backslash, by its number, or as it is. -/
theorem escapeScriptChar_cases (c : Char) :
    (c ∈ ['\\', '\'', '"'] ∧ escapeScriptChar c = ['\\', c]) ∨
      (c.toNat < 160 ∧ escapeScriptChar c = unitEscape c.toNat) ∨
      (c ∉ ['\\', '\'', '"', '<', '>', '&', '='] ∧ isControl c = false ∧
        escapeScriptChar c = [c]) := by
  unfold escapeScriptChar
  split
  · next h => exact .inl ⟨by simpa using h, rfl⟩
  · next h =>
    split
    · next h' =>
      refine .inr (.inl ⟨?_, rfl⟩)
      obtain rfl | rfl | rfl | rfl | h' := h'
      iterate 4 decide
      exact toNat_of_isControl h'
    · next h' =>
      simp only [not_or] at h h'
      obtain ⟨hless, hgreater, hand, hequals, hcontrol⟩ := h'
      refine .inr (.inr ⟨?_, by simpa using hcontrol, rfl⟩)
      simp [h, hless, hgreater, hand, hequals]

private theorem readQuoted_unitEscape (h : c.toNat < 65536) (rest : List Char) :
    readQuoted (unitEscape c.toNat ++ rest) = (readQuoted rest).map (.escaped c :: ·) := by
  have hvalue : 4096 * (c.toNat / 4096 % 16) + 256 * (c.toNat / 256 % 16) +
      16 * (c.toNat / 16 % 16) + c.toNat % 16 = c.toNat := by omega
  have hdigit (n : Nat) := digitValue?_upperHexDigit (Nat.mod_lt n (by decide : 0 < 16))
  have hvalid : c.toNat.isValidChar := c.valid
  simp only [unitEscape, List.cons_append, List.nil_append, readQuoted, hdigit,
    Option.bind_eq_bind, Option.bind_some, hvalue, if_pos hvalid, Char.ofNat_toNat]

/-- The character as it is found in a quoted string. -/
def quoted (c : Char) : Quoted := if escapeScriptChar c = [c] then .bare c else .escaped c

private theorem char_quoted (c : Char) : (quoted c).char = c := by
  unfold quoted
  split <;> rfl

private theorem escapeScriptChar_of_bare (h : .bare c ∈ cs.map quoted) :
    escapeScriptChar c = [c] := by
  obtain ⟨d, -, hd⟩ := List.mem_map.1 h
  unfold quoted at hd
  split at hd
  · next hw =>
    cases hd
    exact hw
  · cases hd

private theorem readQuoted_escapeScriptChar (c : Char) (rest : List Char) :
    readQuoted (escapeScriptChar c ++ rest) = (readQuoted rest).map (quoted c :: ·) := by
  obtain ⟨hc, hw⟩ | ⟨hlt, hw⟩ | ⟨hc, -, hw⟩ := escapeScriptChar_cases c
  · have hq : quoted c = .escaped c := by
      rw [quoted, hw, if_neg (by simp)]
    rw [hw, hq]
    simp only [List.mem_cons, List.not_mem_nil, or_false] at hc
    obtain rfl | rfl | rfl := hc <;>
    · rw [List.cons_append, List.singleton_append, readQuoted]
      · rfl
      · rintro _ _ _ _ _ h -
        cases h
  · have hq : quoted c = .escaped c := by
      rw [quoted, hw, if_neg (by simp [unitEscape])]
    rw [hw, hq, readQuoted_unitEscape (by omega)]
  · have hq : quoted c = .bare c := by
      rw [quoted, hw, if_pos rfl]
    have hne : c ≠ '\\' := fun h ↦ hc (by simp [h])
    rw [hw, hq, List.singleton_append, readQuoted]
    · rw [if_neg hne]
    · rintro _ _ _ _ _ h -
      exact hne h
    · rintro _ _ h -
      exact hne h

private theorem readQuoted_escapeScript (s : String) :
    readQuoted (escapeScript s).toList = some (s.toList.map quoted) := by
  rw [escapeScript, String.toList_ofList]
  exact read_flatMap readQuoted quoted rfl readQuoted_escapeScriptChar s.toList

private theorem safe_of_mem_escapeScriptChar (hc : c ∈ escapeScriptChar d) :
    c ∉ ['<', '>', '&', '='] ∧ isControl c = false := by
  obtain ⟨hd, hw⟩ | ⟨hlt, hw⟩ | ⟨hd, hcontrol, hw⟩ := escapeScriptChar_cases d
  · have hall : ∀ c ∈ ['\\', '\'', '"'], c ∉ ['<', '>', '&', '='] ∧ isControl c = false :=
      List.all_iff_forall_prop.mp (by decide)
    rw [hw, List.mem_cons, List.mem_singleton] at hc
    obtain rfl | rfl := hc
    · exact hall _ List.mem_cons_self
    · exact hall _ hd
  · have hall : ∀ n < 160, (unitEscape n).all fun c ↦
        c ∉ ['<', '>', '&', '='] ∧ isControl c = false := by decide +kernel
    exact List.all_iff_forall_prop.mp (hall d.toNat hlt) c (hw ▸ hc)
  · rw [hw, List.mem_singleton] at hc
    subst hc
    refine ⟨fun h ↦ hd ?_, hcontrol⟩
    exact List.mem_append_right ['\\', '\'', '"'] h

/-- An escaped text can stand in a quoted string of a script. -/
theorem standsInScript (s : String) : StandsInScript s (escapeScript s) where
  reads := by
    intro quote hquote
    have hbare : ∀ c ∈ ['"', '\'', '\n', '\r'], .bare c ∉ s.toList.map quoted := by
      have hall : ∀ c ∈ ['"', '\'', '\n', '\r'], escapeScriptChar c ≠ [c] :=
        List.all_iff_forall_prop.mp (by decide)
      exact fun c hc h ↦ hall c hc (escapeScriptChar_of_bare h)
    have hends : ¬ (.bare quote ∈ s.toList.map quoted ∨ .bare '\n' ∈ s.toList.map quoted ∨
        .bare '\r' ∈ s.toList.map quoted) :=
      not_or.mpr ⟨hbare quote (List.mem_append_left ['\n', '\r'] hquote),
        not_or.mpr ⟨hbare '\n' (by decide), hbare '\r' (by decide)⟩⟩
    have hchar : (s.toList.map quoted).map Quoted.char = s.toList := by
      rw [List.map_map]
      exact (List.map_congr_left fun c _ ↦ char_quoted c).trans (List.map_id _)
    rw [readString, readQuoted_escapeScript]
    simp only [Option.bind_eq_bind, Option.bind_some, if_neg hends, hchar]
  quoted := by
    intro cs hcs
    rw [readQuoted_escapeScript, Option.some.injEq] at hcs
    subst hcs
    exact ⟨fun h ↦ absurd (escapeScriptChar_of_bare h) (by decide),
      fun h ↦ absurd (escapeScriptChar_of_bare h) (by decide)⟩
  safe := by
    intro c hc
    obtain ⟨hmem, hcontrol⟩ :=
      forall_mem_written (fun _ _ ↦ safe_of_mem_escapeScriptChar) s.toList c hc
    simp only [isControl, Bool.or_eq_false_iff, decide_eq_false_iff_not, Nat.not_lt] at hcontrol
    exact ⟨hmem, hcontrol.1, by simpa using hcontrol.2⟩

/-! ### Pages -/

/-- The entities of a page, each with what comes after the ampersand and what it stands for. -/
def entities : List (List Char × Char) :=
  [(['#', '3', '4', ';'], '"'), (['#', '3', '9', ';'], '\''), (['a', 'm', 'p', ';'], '&'),
    (['l', 't', ';'], '<'), (['g', 't', ';'], '>')]

/-- A page with its entities replaced. -/
def unescapePage : List Char → List Char
  | [] => []
  | c :: rest =>
    match if c = '&' then entities.find? fun e ↦ e.1.isPrefixOf rest else none with
    | some e => e.2 :: unescapePage (rest.drop e.1.length)
    | none => c :: unescapePage rest
termination_by cs => cs.length

/-- A character as a page shows it: for the character zero, the one for what cannot be shown. -/
def shown (c : Char) : Char := if c = '\x00' then '\ufffd' else c

/-- What is promised of a text in a page. -/
structure StandsInPage (s out : String) : Prop where
  reads : unescapePage out.toList = s.toList.map shown
  safe : ∀ c ∈ out.toList, c ∉ ['<', '>', '"', '\'']
  ampersands : ∀ before after, out.toList = before ++ '&' :: after → ∃ e ∈ entities, e.1 <+: after

private theorem unescapePage_entity {e : List Char × Char} (he : e ∈ entities) (rest : List Char) :
    unescapePage ('&' :: (e.1 ++ rest)) = e.2 :: unescapePage rest := by
  have hfind : (entities.find? fun e' ↦ e'.1.isPrefixOf (e.1 ++ rest)) = some e := by
    simp only [entities, List.mem_cons, List.not_mem_nil, or_false] at he
    obtain rfl | rfl | rfl | rfl | rfl := he <;> rfl
  rw [unescapePage, if_pos rfl, hfind]
  simp only [List.drop_left]

private theorem unescapePage_cons (h : c ≠ '&') (rest : List Char) :
    unescapePage (c :: rest) = c :: unescapePage rest := by
  rw [unescapePage, if_neg h]

/-- A character is written as its entity, or as it is shown if it has none. -/
theorem escapeHtmlChar_cases (c : Char) :
    (∃ e ∈ entities, e.2 = c ∧ escapeHtmlChar c = '&' :: e.1) ∨
      ((∀ e ∈ entities, e.2 ≠ c) ∧ escapeHtmlChar c = [shown c]) := by
  by_cases h : ∃ e ∈ entities, e.2 = c
  · have hall : ∀ e ∈ entities, escapeHtmlChar e.2 = '&' :: e.1 := by decide
    obtain ⟨e, he, rfl⟩ := h
    exact .inl ⟨e, he, rfl, hall e he⟩
  · have hne : ∀ e ∈ entities, e.2 ≠ c := fun e he hc ↦ h ⟨e, he, hc⟩
    refine .inr ⟨hne, ?_⟩
    simp only [entities, List.forall_mem_cons, List.not_mem_nil, ne_eq] at hne
    obtain ⟨hdouble, hsingle, hand, hless, hgreater, -⟩ := hne
    rw [escapeHtmlChar, if_neg (Ne.symm hdouble), if_neg (Ne.symm hsingle), if_neg (Ne.symm hand),
      if_neg (Ne.symm hless), if_neg (Ne.symm hgreater), shown]
    split <;> rfl

/-- A character without an entity is shown as one that means nothing in a page. -/
theorem shown_of_no_entity (h : ∀ e ∈ entities, e.2 ≠ c) :
    shown c ∉ ['&', '<', '>', '"', '\''] := by
  have hall : ∀ c ∈ ['&', '<', '>', '"', '\''], ∃ e ∈ entities, e.2 = c :=
    List.all_iff_forall_prop.mp (by decide)
  unfold shown
  split
  · decide
  · intro hc
    obtain ⟨e, he, hec⟩ := hall c hc
    exact h e he hec

private theorem unescapePage_escapeHtmlChar (c : Char) (rest : List Char) :
    unescapePage (escapeHtmlChar c ++ rest) = shown c :: unescapePage rest := by
  obtain ⟨e, he, rfl, hw⟩ | ⟨hne, hw⟩ := escapeHtmlChar_cases c
  · have hall : ∀ e ∈ entities, shown e.2 = e.2 := by decide
    rw [hw, List.cons_append, unescapePage_entity he, hall e he]
  · have hc : shown c ≠ '&' := fun h ↦ shown_of_no_entity hne (by simp [h])
    rw [hw, List.singleton_append, unescapePage_cons hc]

private theorem unescapePage_flatMap (cs : List Char) :
    unescapePage (cs.flatMap escapeHtmlChar) = cs.map shown := by
  induction cs with
  | nil => rw [List.flatMap_nil, unescapePage, List.map_nil]
  | cons c cs ih => rw [List.flatMap_cons, unescapePage_escapeHtmlChar, ih, List.map_cons]

private theorem safe_of_mem_escapeHtmlChar (hc : c ∈ escapeHtmlChar d) :
    c ∉ ['<', '>', '"', '\''] := by
  obtain ⟨e, he, -, hw⟩ | ⟨hne, hw⟩ := escapeHtmlChar_cases d
  · have hall : ∀ e ∈ entities, ('&' :: e.1).all fun c ↦ c ∉ ['<', '>', '"', '\''] := by decide
    exact List.all_iff_forall_prop.mp (hall e he) c (hw ▸ hc)
  · rw [hw, List.mem_singleton] at hc
    subst hc
    exact fun h ↦ shown_of_no_entity hne (List.mem_cons_of_mem _ h)

private theorem ampersand_escapeHtmlChar (h : escapeHtmlChar c = before ++ '&' :: after) :
    ∃ e ∈ entities, e.1 = after := by
  obtain ⟨e, he, -, hw⟩ | ⟨hne, hw⟩ := escapeHtmlChar_cases c
  · rw [hw] at h
    cases before with
    | nil => exact ⟨e, he, List.tail_eq_of_cons_eq h⟩
    | cons d before =>
      have hall : ∀ e ∈ entities, '&' ∉ e.1 := by decide
      rw [List.cons_append, List.cons.injEq] at h
      exact absurd (h.2 ▸ List.mem_append_right _ List.mem_cons_self) (hall e he)
  · have hmem : '&' ∈ escapeHtmlChar c := h ▸ List.mem_append_right _ List.mem_cons_self
    rw [hw, List.mem_singleton] at hmem
    exact absurd (by simp [← hmem]) (shown_of_no_entity hne)

/-- Each ampersand starts an entity: it is in what is written for one character, or in what is
written for those after it. -/
theorem ampersand_flatMap (cs : List Char)
    (h : cs.flatMap escapeHtmlChar = before ++ '&' :: after) : ∃ e ∈ entities, e.1 <+: after := by
  induction cs generalizing before with
  | nil => simp at h
  | cons c cs ih =>
    rw [List.flatMap_cons, List.append_eq_append_iff] at h
    obtain ⟨before', -, h⟩ | ⟨w, hw, h⟩ := h
    · exact ih h
    · cases w with
      | nil => exact @ih [] h.symm
      | cons d w =>
        rw [List.cons_append, List.cons.injEq] at h
        obtain ⟨rfl, rfl⟩ := h
        obtain ⟨e, he, rfl⟩ := ampersand_escapeHtmlChar hw
        exact ⟨e, he, List.prefix_append _ _⟩

/-- An escaped text can stand in a page. -/
theorem standsInPage (s : String) : StandsInPage s (escapeHtml s) where
  reads := by
    rw [escapeHtml, String.toList_ofList, unescapePage_flatMap]
  safe := forall_mem_written (fun _ _ ↦ safe_of_mem_escapeHtmlChar) s.toList
  ampersands := by
    intro before after h
    rw [escapeHtml, String.toList_ofList] at h
    exact ampersand_flatMap s.toList h

/-! ### The built-in functions -/

/-- The functions that escape a text give one that can stand where it is meant to: it is read as
the text that was escaped, and has none of the characters that mean something there. -/
theorem escapes_reversible (host : Host) (s : String) :
    (∃ out, (Function.ofBuiltin .urlQuery).plainProgram host [.text s] =
        .done (.single (.text out)) ∧ StandsInQuery s out) ∧
      (∃ out, (Function.ofBuiltin .js).plainProgram host [.text s] =
        .done (.single (.text out)) ∧ StandsInScript s out) ∧
      ∃ out, (Function.ofBuiltin .html).plainProgram host [.text s] =
        .done (.single (.text out)) ∧ StandsInPage s out :=
  ⟨⟨_, rfl, standsInQuery s⟩, ⟨_, rfl, standsInScript s⟩, ⟨_, rfl, standsInPage s⟩⟩

end TextTemplate.Text
