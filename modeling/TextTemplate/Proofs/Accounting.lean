import Mathlib.Data.List.TakeWhile
import TextTemplate.Builtin.Table
import TextTemplate.Number.Reader

/-!
# The parts of a format and its arguments

A format splits in one way into characters and directives (`Splits`, `Splits.unique`). What is
written is put together from what its parts stand for: the directives take the arguments one after
the other, and those that are left over come at the end (`printf_accounts_iff`). Nothing is written
where a directive rounds its argument to more places than there can be.
-/

set_option autoImplicit false

namespace TextTemplate.Format

/-! ### Formats as they are written -/

/-- What stands between the percent sign and the verb, as it is written. -/
@[ext]
structure Head where
  flags : List Char
  width : List Char
  /-- The digits after the point, if there is a point. -/
  precision : Option (List Char)

/-- A part of a format, as it is written. -/
inductive Part where
  | literal (c : Char)
  | directive (head : Head) (verb : Char)
  /-- A directive that ends with the format. -/
  | unfinished (head : Head)

/-- Characters of one kind, as far as they go. -/
structure Longest (p : Char → Bool) (front rest : List Char) : Prop where
  all : ∀ c ∈ front, p c = true
  ends : ∀ c ∈ rest.head?, p c = false

/-- The point of a precision and its digits. -/
def pointChars : Option (List Char) → List Char
  | none => []
  | some ds => '.' :: ds

/-- Where a precision ends. -/
def PointEnds (rest : List Char) : Option (List Char) → Prop
  | none => rest.head? ≠ some '.'
  | some ds => Longest Char.isDigit ds rest

/-- A text begins with a head, which goes as far as it can, and goes on with what comes after it. -/
structure Head.Leads (h : Head) (cs rest : List Char) : Prop where
  chars : cs = h.flags ++ (h.width ++ (pointChars h.precision ++ rest))
  flags : Longest isFlag h.flags (h.width ++ (pointChars h.precision ++ rest))
  width : Longest Char.isDigit h.width (pointChars h.precision ++ rest)
  precision : PointEnds rest h.precision

/-- The parts that a format is made of. -/
inductive Splits : List Char → List Part → Prop where
  | nil : Splits [] []
  | literal {c : Char} {cs : List Char} {ps : List Part} :
      c ≠ '%' → Splits cs ps → Splits (c :: cs) (.literal c :: ps)
  | directive {h : Head} {verb : Char} {cs rest : List Char} {ps : List Part} :
      h.Leads cs (verb :: rest) → Splits rest ps → Splits ('%' :: cs) (.directive h verb :: ps)
  | unfinished {h : Head} {cs : List Char} : h.Leads cs [] → Splits ('%' :: cs) [.unfinished h]

/-! ### What they stand for -/

/-- The number that digits stand for, if there are any. -/
def numberOf (ds : List Char) : Option Nat :=
  if ds.isEmpty then none else some (Number.decimalValue ds)

namespace Head

/-- What a head says. -/
def spec (h : Head) : Spec where
  minus := h.flags.contains '-'
  plus := h.flags.contains '+'
  zero := h.flags.contains '0'
  space := h.flags.contains ' '
  sharp := h.flags.contains '#'
  width := numberOf h.width
  precision := h.precision.map Number.decimalValue
  badWidth := false
  badPrecision := false

/-- A head without its numbers above the limit. -/
def trimmed (h : Head) : Head where
  flags := h.flags
  width := if beyondLimit h.spec.width then [] else h.width
  precision := if beyondLimit h.spec.precision then none else h.precision

/-- The marks for the numbers above the limit. -/
def marks (h : Head) : List Char :=
  (if beyondLimit h.spec.width then "%!(BADWIDTH)".toList else [])
    ++ (if beyondLimit h.spec.precision then "%!(BADPREC)".toList else [])

end Head

/-- Whether a part takes an argument. -/
def Part.takes : Part → Bool
  | .directive _ verb => verb != '%'
  | _ => false

/-- What is written for a part; the argument is the one that it takes, if there is one. -/
def Part.text (arg? : Option Value) : Part → List Char
  | .literal c => [c]
  | .unfinished h => h.marks ++ "%!(NOVERB)".toList
  | .directive h verb =>
    h.marks ++
      if verb = '%' then ['%']
      else match arg? with
        | some arg => formatArg h.trimmed.spec verb arg
        | none => "%!".toList ++ verb :: "(MISSING)".toList

/-- The place of the argument for a part, after those that the parts in front of it take. -/
def slot (ps : List Part) (i : Nat) : Nat := (ps.take i).countP Part.takes

/-- The arguments that no part takes. -/
def leftOver (ps : List Part) (args : List Value) : List Value := args.drop (ps.countP Part.takes)

/-- What the parts of a format stand for one after the other, and the arguments that are left. -/
def account (ps : List Part) (args : List Value) : List Char :=
  (ps.mapIdx fun i p ↦ p.text args[slot ps i]?).flatten ++
    if leftOver ps args = [] then []
    else "%!(EXTRA ".toList ++ [',', ' '].intercalate ((leftOver ps args).map described) ++ [')']

/-- There is no argument for a directive that takes one. -/
def LacksArgument (ps : List Part) (args : List Value) : Prop :=
  ∃ (i : Nat) (p : Part), ps[i]? = some p ∧ p.takes = true ∧ args[slot ps i]? = none

/-- Whether a part rounds the argument that it takes to more places than there can be. -/
def Part.overtaxes (arg? : Option Value) : Part → Bool
  | .directive h verb => verb != '%' && arg?.any (roundsTooFar h.trimmed.spec verb)
  | _ => false

/-- Some part rounds its argument too far. -/
def Overtaxes (ps : List Part) (args : List Value) : Prop :=
  ∃ (i : Nat) (p : Part), ps[i]? = some p ∧ p.overtaxes args[slot ps i]? = true

variable {p : Char → Bool} {h k : Head} {cs ds front rest : List Char} {ps qs : List Part}
  {args : List Value} {c verb : Char}

/-! ### One way to split a format -/

namespace Longest

private theorem takeWhile (h : Longest p front rest) : (front ++ rest).takeWhile p = front := by
  rw [List.takeWhile_append_of_pos h.all]
  cases rest with
  | nil => simp
  | cons c rest => simp [h.ends c rfl]

private theorem dropWhile (h : Longest p front rest) : (front ++ rest).dropWhile p = rest := by
  rw [List.dropWhile_append_of_pos h.all]
  cases rest with
  | nil => rfl
  | cons c rest => simp [h.ends c rfl]

private theorem of_takeWhile (p : Char → Bool) (cs : List Char) :
    Longest p (cs.takeWhile p) (cs.dropWhile p) where
  all _ hc := List.mem_takeWhile_imp hc
  ends c hc := by
    have hfirst := List.head?_dropWhile_not p cs
    rw [Option.mem_def.mp hc] at hfirst
    exact hfirst

private theorem unique {front' rest' : List Char} (h : Longest p front rest)
    (k : Longest p front' rest')
    (heq : front ++ rest = front' ++ rest') : front = front' ∧ rest = rest' := by
  have hfront := h.takeWhile
  have hrest := h.dropWhile
  rw [heq, k.takeWhile] at hfront
  rw [heq, k.dropWhile] at hrest
  exact ⟨hfront.symm, hrest.symm⟩

end Longest

/-- Every text begins with a head. -/
theorem Head.exists_leads (cs : List Char) : ∃ (h : Head) (rest : List Char), h.Leads cs rest := by
  have hflags := Longest.of_takeWhile isFlag cs
  have hwidth := Longest.of_takeWhile Char.isDigit (cs.dropWhile isFlag)
  have hcs := List.takeWhile_append_dropWhile (p := isFlag) (l := cs)
  have hnext := List.takeWhile_append_dropWhile (p := Char.isDigit) (l := cs.dropWhile isFlag)
  by_cases hpoint : ((cs.dropWhile isFlag).dropWhile Char.isDigit).head? = some '.'
  · obtain ⟨more, hmore⟩ := List.head?_eq_some_iff.mp hpoint
    have hprecision := Longest.of_takeWhile Char.isDigit more
    have hrest : (cs.dropWhile isFlag).dropWhile Char.isDigit =
        pointChars (some (more.takeWhile Char.isDigit)) ++ more.dropWhile Char.isDigit := by
      rw [pointChars, List.cons_append, List.takeWhile_append_dropWhile, hmore]
    rw [hrest] at hwidth hnext
    rw [← hnext] at hflags hcs
    exact ⟨⟨_, _, some _⟩, _, hcs.symm, hflags, hwidth, hprecision⟩
  · rw [← hnext] at hflags hcs
    exact ⟨⟨_, _, none⟩, _, hcs.symm, hflags, hwidth, hpoint⟩

private theorem PointEnds.unique {rest' : List Char} {a b : Option (List Char)}
    (h : PointEnds rest a)
    (k : PointEnds rest' b) (heq : pointChars a ++ rest = pointChars b ++ rest') :
    a = b ∧ rest = rest' := by
  cases a with
  | none =>
    cases b with
    | none => exact ⟨rfl, heq⟩
    | some ds => exact (h (congrArg List.head? heq)).elim
  | some ds =>
    cases b with
    | none => exact (k (congrArg List.head? heq.symm)).elim
    | some es =>
      obtain ⟨hds, hrest⟩ := Longest.unique h k (List.cons.inj heq).2
      exact ⟨congrArg some hds, hrest⟩

private theorem Head.Leads.unique {rest' : List Char} (hl : h.Leads cs rest)
    (kl : k.Leads cs rest') : h = k ∧ rest = rest' := by
  obtain ⟨hflags, hnext⟩ := hl.flags.unique kl.flags (hl.chars.symm.trans kl.chars)
  obtain ⟨hwidth, hpoint⟩ := hl.width.unique kl.width hnext
  obtain ⟨hprecision, hrest⟩ := hl.precision.unique kl.precision hpoint
  exact ⟨Head.ext hflags hwidth hprecision, hrest⟩

/-- A format splits in one way. -/
theorem Splits.unique (hp : Splits cs ps) (hq : Splits cs qs) : ps = qs := by
  induction hp generalizing qs with
  | nil =>
    cases hq
    rfl
  | literal hc _ ih =>
    cases hq with
    | literal _ hq => rw [ih hq]
    | directive => exact (hc rfl).elim
    | unfinished => exact (hc rfl).elim
  | directive hl _ ih =>
    cases hq with
    | literal hc => exact (hc rfl).elim
    | directive kl hq =>
      obtain ⟨rfl, hrest⟩ := hl.unique kl
      obtain ⟨rfl, rfl⟩ := List.cons.inj hrest
      rw [ih hq]
    | unfinished kl => exact (List.cons_ne_nil _ _ (hl.unique kl).2).elim
  | unfinished hl =>
    cases hq with
    | literal hc => exact (hc rfl).elim
    | directive kl => exact (List.cons_ne_nil _ _ (kl.unique hl).2).elim
    | unfinished kl =>
      obtain ⟨rfl, -⟩ := hl.unique kl
      rfl

/-- Every format can be split. -/
theorem exists_splits (cs : List Char) : ∃ ps, Splits cs ps := by
  induction hn : cs.length using Nat.strong_induction_on generalizing cs with
  | _ n ih =>
    cases cs with
    | nil => exact ⟨[], .nil⟩
    | cons c cs =>
      by_cases hc : c = '%'
      · obtain ⟨h, rest, hl⟩ := Head.exists_leads cs
        subst hc
        cases rest with
        | nil => exact ⟨_, .unfinished hl⟩
        | cons verb rest =>
          have hlength : cs.length = h.flags.length +
              (h.width.length + ((pointChars h.precision).length + (rest.length + 1))) := by
            rw [hl.chars]
            simp
          have hlt : rest.length < n := by
            rw [List.length_cons] at hn
            omega
          obtain ⟨ps, hps⟩ := ih _ hlt rest rfl
          exact ⟨_, .directive hl hps⟩
      · obtain ⟨ps, hps⟩ := ih cs.length (by rw [← hn]; exact Nat.lt_succ_self _) cs rfl
        exact ⟨_, .literal hc hps⟩

/-! ### The parts that are read -/

private theorem withinLimit_eq (n : Option Nat) :
    withinLimit n = if beyondLimit n then none else n := by
  cases n with
  | none => rfl
  | some n =>
    simp only [withinLimit, beyondLimit, Option.filter_some, Option.any_some, decide_eq_true_eq]
    by_cases hn : n ≤ sizeLimit
    · rw [if_pos hn, if_neg (Nat.not_lt.mpr hn)]
    · rw [if_neg hn, if_pos (Nat.lt_of_not_le hn)]

private theorem readNumber_append (h : Longest Char.isDigit ds rest) :
    readNumber (ds ++ rest) = (numberOf ds, rest) := by
  rw [readNumber, h.takeWhile, h.dropWhile]
  rfl

private theorem readPrecision_append {point : Option (List Char)} (h : PointEnds rest point) :
    readPrecision (pointChars point ++ rest) = (point.map Number.decimalValue, rest) := by
  cases point with
  | none =>
    unfold readPrecision
    split
    · next heq => exact (h (congrArg List.head? heq)).elim
    · rfl
  | some ds =>
    rw [pointChars, List.cons_append, readPrecision, readNumber_append h]
    cases ds with
    | nil => rfl
    | cons => rfl

/-- What a head says, with the numbers above the limit left out and noted. -/
def Head.readAs (h : Head) : Spec :=
  { h.trimmed.spec with
    badWidth := beyondLimit h.spec.width, badPrecision := beyondLimit h.spec.precision }

/-- What stands in front of a verb is read as the head that it is. -/
theorem Head.Leads.readSpec_eq (hl : h.Leads cs rest) : readSpec cs = (h.readAs, rest) := by
  have hwidth : withinLimit (numberOf h.width) = h.trimmed.spec.width := by
    rw [withinLimit_eq, spec, trimmed, spec]
    dsimp only
    split
    · rfl
    · rfl
  have hprecision : withinLimit (h.precision.map Number.decimalValue) =
      h.trimmed.spec.precision := by
    rw [withinLimit_eq, spec, trimmed, spec]
    dsimp only
    split
    · rfl
    · rfl
  rw [readSpec, hl.chars, hl.flags.takeWhile, hl.flags.dropWhile, readNumber_append hl.width]
  dsimp only
  rw [readPrecision_append hl.precision]
  dsimp only
  rw [hwidth, hprecision]
  rfl

/-- A part as it is read. -/
def Part.piece : Part → Piece
  | .literal c => .literal c
  | .directive h verb => .directive h.readAs verb
  | .unfinished h => .unfinished h.readAs

private theorem Splits.readPieces_eq (h : Splits cs ps) {fuel : Nat} (hfuel : cs.length ≤ fuel) :
    readPieces fuel cs = ps.map Part.piece := by
  induction h generalizing fuel with
  | nil =>
    cases fuel with
    | zero => rfl
    | succ => rfl
  | literal hc _ ih =>
    cases fuel with
    | zero => exact (Nat.not_succ_le_zero _ hfuel).elim
    | succ fuel =>
      rw [readPieces, if_neg hc, ih (Nat.le_of_succ_le_succ hfuel)]
      rfl
  | directive hl _ ih =>
    cases fuel with
    | zero => exact (Nat.not_succ_le_zero _ hfuel).elim
    | succ fuel =>
      have hlength := congrArg List.length hl.chars
      simp only [List.length_append, List.length_cons] at hlength hfuel
      rw [readPieces, if_pos rfl, hl.readSpec_eq]
      dsimp only
      rw [ih (by omega)]
      rfl
  | unfinished hl =>
    cases fuel with
    | zero => exact (Nat.not_succ_le_zero _ hfuel).elim
    | succ fuel =>
      rw [readPieces, if_pos rfl, hl.readSpec_eq]
      rfl

/-! ### The arguments that the parts take -/

/-- The arguments that a part leaves to those after it. -/
def Part.leaves (p : Part) (args : List Value) : List Value := if p.takes then args.tail else args

private theorem slot_zero (ps : List Part) : slot ps 0 = 0 := rfl

private theorem getElem?_slot_succ (p : Part) (ps : List Part) (args : List Value) (i : Nat) :
    args[slot (p :: ps) (i + 1)]? = (p.leaves args)[slot ps i]? := by
  rw [slot, List.take_succ_cons, List.countP_cons, Part.leaves, slot]
  split
  · rw [List.getElem?_tail]
  · rfl

private theorem leftOver_cons (p : Part) (ps : List Part) (args : List Value) :
    leftOver (p :: ps) args = leftOver ps (p.leaves args) := by
  rw [leftOver, List.countP_cons, Part.leaves, leftOver]
  split
  · rw [List.drop_tail]
  · rfl

/-- A part is written with the first argument, and those after it with what it leaves. -/
theorem account_cons (p : Part) (ps : List Part) (args : List Value) :
    account (p :: ps) args = p.text args.head? ++ account ps (p.leaves args) := by
  rw [account, List.mapIdx_cons, List.flatten_cons, slot_zero, List.append_assoc, leftOver_cons,
    account]
  simp only [getElem?_slot_succ, List.head?_eq_getElem?]

private theorem account_nil (args : List Value) : account [] args = extraMark args := by
  cases args with
  | nil => rfl
  | cons => rfl

private theorem Part.leaves_directive (h : Head) (hverb : verb ≠ '%') (args : List Value) :
    (Part.directive h verb).leaves args = args.tail := if_pos (bne_iff_ne.mpr hverb)

private theorem write_directive (h : Head) (verb : Char) (rest : List Piece) (args : List Value) :
    write (.directive h.readAs verb :: rest) args =
      (Part.directive h verb).text args.head? ++
        write rest ((Part.directive h verb).leaves args) := by
  by_cases hverb : verb = '%'
  · subst hverb
    have hleaves : (Part.directive h '%').leaves args = args := rfl
    cases args with
    | nil =>
      simp only [write, Part.text, if_true, List.append_assoc, hleaves]
      rfl
    | cons =>
      simp only [write, Part.text, if_true, List.append_assoc, hleaves]
      rfl
  · rw [Part.leaves_directive h hverb]
    cases args with
    | nil =>
      simp only [write, Part.text, List.head?_nil, if_neg hverb, List.append_assoc]
      rfl
    | cons =>
      simp only [write, Part.text, List.head?_cons, if_neg hverb, List.append_assoc]
      rfl

private theorem Splits.write_eq (h : Splits cs ps) (args : List Value) :
    write (ps.map Part.piece) args = account ps args := by
  induction h generalizing args with
  | nil => exact (account_nil args).symm
  | literal _ _ ih =>
    rw [account_cons, ← ih]
    rfl
  | directive _ _ ih =>
    rw [account_cons, ← ih]
    exact write_directive ..
  | unfinished _ =>
    rw [account_cons, account_nil]
    rfl

/-! ### Directives that ask for too much -/

private theorem overtaxes_cons (p : Part) (ps : List Part) (args : List Value) :
    Overtaxes (p :: ps) args ↔
      p.overtaxes args.head? = true ∨ Overtaxes ps (p.leaves args) := by
  constructor
  · rintro ⟨i, q, hpart, hfar⟩
    cases i with
    | zero =>
      rw [slot_zero, ← List.head?_eq_getElem?, ← Option.some.inj hpart] at hfar
      exact .inl hfar
    | succ i =>
      rw [getElem?_slot_succ] at hfar
      exact .inr ⟨i, q, hpart, hfar⟩
  · rintro (hfar | ⟨i, q, hpart, hfar⟩)
    · rw [List.head?_eq_getElem?] at hfar
      exact ⟨0, p, rfl, hfar⟩
    · rw [← getElem?_slot_succ p] at hfar
      exact ⟨i + 1, q, hpart, hfar⟩

private theorem not_overtaxes_nil (args : List Value) : ¬ Overtaxes [] args := by
  rintro ⟨i, p, hpart, -⟩
  exact absurd hpart (by simp)

/-- Where there are no arguments, none is rounded. -/
theorem not_overtaxes_of_nil (ps : List Part) : ¬ Overtaxes ps [] := by
  rintro ⟨i, p, -, hfar⟩
  rw [List.getElem?_nil] at hfar
  cases p with
  | directive h verb => simp [Part.overtaxes] at hfar
  | _ => exact nomatch hfar

private theorem Splits.anyTooFar_iff (h : Splits cs ps) (args : List Value) :
    anyTooFar (ps.map Part.piece) args = true ↔ Overtaxes ps args := by
  induction h generalizing args with
  | nil => simp [anyTooFar, not_overtaxes_nil]
  | literal _ _ ih =>
    rw [overtaxes_cons, List.map_cons, Part.piece, anyTooFar, ih]
    simp [Part.leaves, Part.takes, Part.overtaxes]
  | unfinished =>
    rw [overtaxes_cons]
    simp [Part.piece, anyTooFar, Part.overtaxes, not_overtaxes_nil]
  | @directive h verb _ _ ps _ _ ih =>
    cases args with
    | nil => simp [Part.piece, anyTooFar, not_overtaxes_of_nil]
    | cons arg args =>
      rw [overtaxes_cons, List.map_cons, Part.piece, anyTooFar]
      by_cases hverb : verb = '%'
      · subst hverb
        rw [if_pos rfl, ih]
        simp [Part.leaves, Part.takes, Part.overtaxes]
      · have hfar : roundsTooFar h.readAs verb arg = roundsTooFar h.trimmed.spec verb arg := rfl
        rw [if_neg hverb, Part.leaves_directive h hverb, Bool.or_eq_true, ih, hfar]
        simp [Part.overtaxes, hverb]

/-! ### What the formatting function does -/

/-- An argument is left over only if no directive lacks one. -/
theorem not_lacksArgument (h : leftOver ps args ≠ []) : ¬ LacksArgument ps args := by
  rintro ⟨i, p, hpart, htakes, hnone⟩
  have hmore : ps.countP Part.takes < args.length := by
    rw [leftOver, ne_eq, List.drop_eq_nil_iff] at h
    omega
  have hslot : slot ps i + 1 = slot ps (i + 1) := by
    rw [slot, slot, List.take_add_one, hpart, List.countP_append]
    simp [htakes]
  have hle : slot ps (i + 1) ≤ ps.countP Part.takes := (List.take_sublist ..).countP_le
  rw [List.getElem?_eq_none_iff] at hnone
  omega

private theorem Splits.pieces_eq (h : Splits cs ps) : pieces cs = ps.map Part.piece :=
  h.readPieces_eq (Nat.le_refl _)

private theorem format_eq {s : String} (h : Splits s.toList ps) (args : List Value) :
    format s args = String.ofList (account ps args) := by
  rw [format, h.pieces_eq, h.write_eq]

private theorem isOutOfRange_iff {s : String} (h : Splits s.toList ps) (args : List Value) :
    isOutOfRange s args = true ↔ Overtaxes ps args := by
  rw [isOutOfRange, h.pieces_eq, h.anyTooFar_iff]

/-- A format splits in one way, and the formatting function accounts for its characters and for all
arguments, unless a directive rounds its argument to more places than there can be. No directive
lacks an argument where one is left over. -/
theorem printf_accounts_iff (s : String) (args : List Value) :
    ∃ ps, (∀ qs, Splits s.toList qs ↔ qs = ps) ∧
      ¬ (LacksArgument ps args ∧ leftOver ps args ≠ []) ∧
      (Builtin.printf.plain (.text s :: args) =
          .done (.single (.text (String.ofList (account ps args)))) ↔ ¬ Overtaxes ps args) := by
  obtain ⟨ps, hps⟩ := exists_splits s.toList
  refine ⟨ps, fun qs ↦ ⟨fun hqs ↦ hqs.unique hps, fun h ↦ h ▸ hps⟩,
    fun h ↦ not_lacksArgument h.2 h.1, ?_⟩
  rw [Builtin.plain_printf, format_eq hps, ← isOutOfRange_iff hps]
  by_cases hrange : isOutOfRange s args = true
  · simp [hrange]
  · simp [hrange]

/-- A number is not rounded to 65537 digits, although the limit for a precision is a million. -/
theorem not_accounts_precise :
    Builtin.printf.plain [.text "%.65537g", .float (.ofMagnitude false 0x3ff8000000000000)] =
      .panic (some "Formatting argument out of range") ∧ 65537 ≤ sizeLimit := by
  have hrange :
      isOutOfRange "%.65537g" [.float (.ofMagnitude false 0x3ff8000000000000)] = true := by decide
  rw [Builtin.plain_printf, if_pos hrange]
  exact ⟨rfl, by decide⟩

end TextTemplate.Format
