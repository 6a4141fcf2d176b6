import Mathlib.Data.List.TakeWhile
import TextTemplate.Builtin.Table
import TextTemplate.Proofs.Numeral

/-!
# Padded integers

A directive for an integer writes a sign, the mark of the base and the digits, filled up to the
width. What it writes can be read back as the integer, unless the zeros that fill it up are put in
the wrong place (`Format.printf_keeps_iff`). They go in front of the first decimal digit, which is
not where the digits begin if there is a mark with a zero, or if the first digit is a letter.
-/

set_option autoImplicit false

namespace TextTemplate.Format

open Number (Numeral Sign)

/-- The text of a width. A zero is a flag, so that there is none for a width of zero. -/
def widthChars (width : Nat) : List Char := if width = 0 then [] else Nat.toDigits 10 width

/-- A directive with flags, a width and a verb. -/
def directive (flags : List Char) (width : Nat) (verb : Char) : String :=
  String.ofList ('%' :: (flags ++ (widthChars width ++ [verb])))

/-- What the flags and the width of a directive say. -/
def specOf (flags : List Char) (width : Nat) : Spec where
  minus := flags.contains '-'
  plus := flags.contains '+'
  zero := flags.contains '0'
  space := flags.contains ' '
  sharp := flags.contains '#'
  width := if width = 0 then none else some width
  precision := none
  badWidth := false
  badPrecision := false

/-- The verbs that write an integer in a base. -/
def integerVerbs : List Char := ['d', 'b', 'o', 'x', 'X']

/-- The mark of the base in front of the digits, with the sharp flag. -/
def markChars (spec : Spec) (verb : Char) : List Char :=
  if spec.sharp then radixMark verb else []

/-- A text without the spaces around it is a sign or none, the mark of the base and digits that
denote an integer. -/
inductive ReadsAs (spec : Spec) (verb : Char) (cs : List Char) : Int → Prop where
  | mk {before after n : Nat} {sign digits : List Char} {negative : Bool} :
      Sign sign negative → Numeral (radixOf verb) digits n →
        cs = List.replicate before ' ' ++ (sign ++ (markChars spec verb ++ digits)) ++
          List.replicate after ' ' →
        ReadsAs spec verb cs (if negative then -(n : Int) else n)

/-- A text is an integer as a verb writes it and what fills it up to the width. -/
structure Keeps (spec : Spec) (verb : Char) (n : Int) (cs : List Char) : Prop where
  reads : ReadsAs spec verb cs n
  length : cs.length = max (spec.width.getD 0) (integerChars spec verb n).length
  /-- Zeros stand in front of the digits only, and spaces around the number. -/
  fill : ∃ before zeros after, cs = List.replicate before ' ' ++
    (signChars spec (n < 0) ++ (markChars spec verb ++
      (List.replicate zeros '0' ++ digitChars verb n.natAbs))) ++ List.replicate after ' '

/-- The zeros that fill up a number do not go where its digits begin: the mark of the base is taken
for its first digit, or its first digit is a letter, which counts only if there is neither a sign
nor a decimal digit that the zeros can be put in front of. -/
def Misplaces (spec : Spec) (verb : Char) (n : Int) : Prop :=
  spec.zero = true ∧ spec.minus = false ∧
    (integerChars spec verb n).length < spec.width.getD 0 ∧
      (spec.sharp = true ∧ verb ∈ ['b', 'x', 'X'] ∨
        (digitChars verb n.natAbs).head?.any Char.isDigit = false ∧
          (signChars spec (n < 0) ≠ [] ∨ (digitChars verb n.natAbs).any Char.isDigit = true))

instance (spec : Spec) (verb : Char) (n : Int) : Decidable (Misplaces spec verb n) :=
  inferInstanceAs (Decidable (_ ∧ _ ∧ _ ∧ (_ ∧ _ ∨ _ ∧ (_ ∨ _))))

variable {spec : Spec} {flags cs digits : List Char} {width m : Nat} {verb : Char} {n : Int}
  {v : Value} {negative : Bool}

private theorem forall_integerVerbs {p : Char → Prop} (h : p 'd' ∧ p 'b' ∧ p 'o' ∧ p 'x' ∧ p 'X') :
    ∀ verb ∈ integerVerbs, p verb := by
  simpa [integerVerbs] using h

private theorem radixOf_bounds (hverb : verb ∈ integerVerbs) :
    1 < radixOf verb ∧ radixOf verb ≤ 16 :=
  forall_integerVerbs (p := fun verb ↦ 1 < radixOf verb ∧ radixOf verb ≤ 16) (by decide) verb hverb

private theorem specOf_width (flags : List Char) (width : Nat) :
    (specOf flags width).width.getD 0 = width := by
  rw [specOf]
  split
  · next h => rw [h, Option.getD_none]
  · rfl

/-! ### Reading a directive -/

private theorem readNumber_widthChars (width : Nat) (hverb : verb.isDigit = false) :
    readNumber (widthChars width ++ [verb]) =
      (if width = 0 then none else some width, [verb]) := by
  have hstop : [verb].takeWhile Char.isDigit = [] := by simp [hverb]
  have hrest : [verb].dropWhile Char.isDigit = [verb] := by simp [hverb]
  rw [widthChars]
  split
  · next h =>
    rw [List.nil_append, readNumber, hstop, hrest]
    rfl
  · next h =>
    have hdigits : Numeral 10 (Nat.toDigits 10 width) width := .toDigits (by decide) width
    have hall : ∀ c ∈ Nat.toDigits 10 width, c.isDigit = true :=
      fun c hc ↦ hdigits.isDigit (Nat.le_refl 10) hc
    have hvalue := hdigits.decimalValue_eq
    rw [Number.decimalValue] at hvalue
    rw [readNumber, List.takeWhile_append_of_pos hall, List.dropWhile_append_of_pos hall, hstop,
      hrest, List.append_nil, hvalue]
    simp [hdigits.ne_nil]

/-- A width does not begin with a zero, so that no flag comes after the flags. -/
theorem dropWhile_widthChars (width : Nat) (hverb : isFlag verb = false) :
    (widthChars width ++ [verb]).takeWhile isFlag = [] ∧
      (widthChars width ++ [verb]).dropWhile isFlag = widthChars width ++ [verb] := by
  have hdigit : ∀ d < 10, d ≠ 0 → isFlag d.digitChar = false := by decide
  rw [widthChars]
  split
  · simp [hverb]
  · next h =>
    have hten : 1 < 10 := by decide
    obtain ⟨d, rest, hd, hlt, hrest⟩ := Numeral.exists_toDigits_eq hten h
    simp [hrest, hdigit d hlt hd]

private theorem readSpec_directive (hflags : ∀ c ∈ flags, isFlag c = true)
    (hwidth : width ≤ sizeLimit) (hverb : verb ∈ integerVerbs) :
    readSpec (flags ++ (widthChars width ++ [verb])) = (specOf flags width, [verb]) := by
  have hall : ∀ verb ∈ integerVerbs, isFlag verb = false ∧ verb.isDigit = false ∧ verb ≠ '.' :=
    forall_integerVerbs (by decide)
  obtain ⟨hflag, hdigit, hpoint⟩ := hall verb hverb
  obtain ⟨htake, hdrop⟩ := dropWhile_widthChars width hflag
  have hprecision : readPrecision [verb] = (none, [verb]) := by
    rw [readPrecision.eq_def]
    split
    · next h => exact (hpoint (List.cons.inj h).1).elim
    · rfl
  have hlimit : withinLimit (if width = 0 then none else some width) =
      if width = 0 then none else some width := by
    split
    · rfl
    · simp [withinLimit, hwidth]
  have hbeyond : beyondLimit (if width = 0 then none else some width) = false := by
    split
    · rfl
    · simp [beyondLimit, hwidth]
  rw [readSpec, List.takeWhile_append_of_pos hflags, List.dropWhile_append_of_pos hflags, htake,
    hdrop, readNumber_widthChars width hdigit, List.append_nil]
  dsimp only
  rw [hprecision]
  dsimp only
  rw [hlimit, hbeyond]
  rfl

/-! ### An integer as an argument -/

private theorem integerForm?_eq (spec : Spec) (hverb : verb ∈ integerVerbs) (n : Int) :
    integerForm? spec verb n = some (integerChars spec verb n, true) := by
  simp only [integerVerbs, List.mem_cons, List.not_mem_nil, or_false] at hverb
  obtain rfl | rfl | rfl | rfl | rfl := hverb
  · cases h : spec.sharp <;> simp [integerForm?, integerChars, h, radixMark, digitChars, radixOf]
  all_goals rfl

private theorem form?_eq (spec : Spec) (hverb : verb ∈ integerVerbs)
    (hv : Argument.integer? v = some n) :
    form? spec verb v = some (integerChars spec verb n, true) := by
  have hT : verb ≠ 'T' := by
    rintro rfl
    exact absurd hverb (by decide)
  rw [form?, if_neg hT]
  rw [Argument.integer?] at hv
  split at hv
  · next i hi =>
    cases hv
    rw [hi]
    exact integerForm?_eq spec hverb _
  · next u hu =>
    cases hv
    rw [hu]
    exact integerForm?_eq spec hverb _
  · cases hv

private theorem pieces_directive (hflags : ∀ c ∈ flags, isFlag c = true)
    (hwidth : width ≤ sizeLimit) (hverb : verb ∈ integerVerbs) :
    pieces (directive flags width verb).toList = [.directive (specOf flags width) verb] := by
  rw [directive, String.toList_ofList, pieces, List.length_cons, readPieces, if_pos rfl,
    readSpec_directive hflags hwidth hverb]
  cases (flags ++ (widthChars width ++ [verb])).length with
  | zero => rfl
  | succ _ => rfl

/-- What the formatting function does with a directive for an integer. -/
theorem printf_directive (hflags : ∀ c ∈ flags, isFlag c = true) (hwidth : width ≤ sizeLimit)
    (hverb : verb ∈ integerVerbs) (hv : Argument.integer? v = some n) :
    Builtin.printf.plain [.text (directive flags width verb), v] =
      .done (.single (.text (String.ofList (pad (specOf flags width)
        (integerChars (specOf flags width) verb n) true)))) := by
  have hpercent : verb ≠ '%' := by
    rintro rfl
    exact absurd hverb (by decide)
  have hpieces := pieces_directive hflags hwidth hverb
  have hrange : isOutOfRange (directive flags width verb) [v] = false := by
    rw [isOutOfRange, hpieces, anyTooFar, if_neg hpercent, roundsTooFar]
    rw [Argument.integer?] at hv
    split
    · next hfloat _ =>
      rw [hfloat] at hv
      cases hv
    · rfl
  have hwrite : write (pieces (directive flags width verb).toList) [v] =
      pad (specOf flags width) (integerChars (specOf flags width) verb n) true := by
    rw [hpieces, write, if_neg hpercent]
    simp [write, formatArg, form?_eq _ hverb hv, limitMarks, specOf, extraMark]
  rw [Builtin.plain_printf, hrange, format, hwrite]
  rfl

/-- The parts of an integer. -/
theorem integerChars_eq (spec : Spec) (verb : Char) (n : Int) : integerChars spec verb n =
    signChars spec (n < 0) ++ (markChars spec verb ++ digitChars verb n.natAbs) := rfl

/-! ### Filling up -/

private theorem length_pad (spec : Spec) (body : List Char) (numeric : Bool) :
    (pad spec body numeric).length = max (spec.width.getD 0) body.length := by
  have hahead : (body.takeWhile fun c ↦ !c.isDigit).length ≤ body.length :=
    List.takeWhile_prefix _ |>.length_le
  simp only [pad]
  split
  · simp
    omega
  · split
    · split
      · simp
        omega
      · simp
        omega
    · simp
      omega

/-- The zeros are put in front of the first decimal digit. -/
theorem pad_append {ahead rest : List Char} {c : Char} (hminus : spec.minus = false)
    (hzero : spec.zero = true) (hahead : ∀ c ∈ ahead, c.isDigit = false) (hc : c.isDigit = true) :
    pad spec (ahead ++ c :: rest) true =
      ahead ++ (List.replicate (spec.width.getD 0 - (ahead ++ c :: rest).length) '0' ++
        c :: rest) := by
  have htake : (ahead ++ c :: rest).takeWhile (fun c ↦ !c.isDigit) = ahead := by
    rw [List.takeWhile_append_of_pos (by simpa using hahead)]
    simp [hc]
  have hdrop : (ahead ++ c :: rest).drop ahead.length = c :: rest := List.drop_left
  simp only [pad, hminus, hzero, htake, hdrop]
  simp

/-- Without a decimal digit the zeros are put in front of everything. -/
theorem pad_of_not_isDigit (hminus : spec.minus = false) (hzero : spec.zero = true)
    (hcs : ∀ c ∈ cs, c.isDigit = false) :
    pad spec cs true = List.replicate (spec.width.getD 0 - cs.length) '0' ++ cs := by
  have htake : cs.takeWhile (fun c ↦ !c.isDigit) = cs := by
    rw [List.takeWhile_eq_self_iff]
    simpa using hcs
  simp [pad, hminus, hzero, htake]

/-- Without zeros to put in, there are spaces on one side. -/
theorem pad_spaces (h : spec.minus = true ∨ spec.zero = false ∨ spec.width.getD 0 ≤ cs.length) :
    ∃ before after, pad spec cs true =
      List.replicate before ' ' ++ cs ++ List.replicate after ' ' := by
  by_cases hminus : spec.minus = true
  · exact ⟨0, spec.width.getD 0 - cs.length, by simp [pad, hminus]⟩
  · obtain h | h | h := h
    · exact (hminus h).elim
    · exact ⟨spec.width.getD 0 - cs.length, 0, by simp [pad, hminus, h]⟩
    · refine ⟨0, 0, ?_⟩
      have hfill : spec.width.getD 0 - cs.length = 0 := Nat.sub_eq_zero_of_le h
      simp only [pad, hfill]
      split
      · simp
      · split
        · split
          · simp
          · have hsplit := List.prefix_iff_eq_append.mp
              (List.takeWhile_prefix (fun c : Char ↦ !c.isDigit) (l := cs))
            simpa using hsplit
        · simp

/-! ### Reading back -/

/-- The digits of an integer denote its absolute value. -/
theorem numeral_digitChars (hverb : verb ∈ integerVerbs) (n : Nat) :
    Numeral (radixOf verb) (digitChars verb n) n := by
  obtain ⟨hlow, hhigh⟩ := radixOf_bounds hverb
  rw [digitChars]
  split
  · exact (Numeral.toDigits hlow n).map_toUpper hhigh
  · exact Numeral.toDigits hlow n

/-- What stands for the sign is a sign, or a space, which counts as one of those around the
number. -/
theorem signChars_eq (spec : Spec) (negative : Bool) :
    ∃ before sign, signChars spec negative = List.replicate before ' ' ++ sign ∧
      Sign sign negative := by
  rw [signChars]
  split
  · next h =>
    rw [h]
    exact ⟨0, ['-'], rfl, .minus⟩
  · next h =>
    rw [Bool.not_eq_true] at h
    rw [h]
    split
    · exact ⟨0, ['+'], rfl, .plus⟩
    · split
      · exact ⟨1, [], rfl, .none⟩
      · exact ⟨0, [], rfl, .none⟩

/-- Digits with a sign and the mark in front and spaces around are read as what they denote. -/
theorem ReadsAs.of_numeral (spec : Spec) (negative : Bool) (h : Numeral (radixOf verb) digits m)
    (before after : Nat) :
    ReadsAs spec verb (List.replicate before ' ' ++
      (signChars spec negative ++ (markChars spec verb ++ digits)) ++ List.replicate after ' ')
      (if negative then -(m : Int) else m) := by
  obtain ⟨more, sign, hsign, hs⟩ := signChars_eq spec negative
  have hbefore : List.replicate before ' ' ++ List.replicate more ' ' =
      List.replicate (before + more) ' ' := List.replicate_append_replicate
  have hcs : List.replicate before ' ' ++
      (signChars spec negative ++ (markChars spec verb ++ digits)) ++ List.replicate after ' ' =
        List.replicate (before + more) ' ' ++ (sign ++ (markChars spec verb ++ digits)) ++
          List.replicate after ' ' := by
    rw [hsign, ← hbefore]
    simp only [List.append_assoc]
  exact .mk hs h hcs

private theorem signed_natAbs (n : Int) :
    (if decide (n < 0) = true then -(n.natAbs : Int) else n.natAbs) = n := by
  split
  · next h =>
    rw [decide_eq_true_eq] at h
    omega
  · next h =>
    rw [decide_eq_true_eq] at h
    omega

/-- What has zeros in front of the digits only is read as the integer. -/
theorem Keeps.of_fill (hverb : verb ∈ integerVerbs)
    (hlength : cs.length = max (spec.width.getD 0) (integerChars spec verb n).length)
    (hfill : ∃ before zeros after, cs = List.replicate before ' ' ++
      (signChars spec (n < 0) ++ (markChars spec verb ++
        (List.replicate zeros '0' ++ digitChars verb n.natAbs))) ++ List.replicate after ' ') :
    Keeps spec verb n cs := by
  refine ⟨?_, hlength, hfill⟩
  obtain ⟨before, zeros, after, rfl⟩ := hfill
  have hreads := ReadsAs.of_numeral spec (decide (n < 0))
    ((numeral_digitChars hverb n.natAbs).zeros zeros) before after
  rw [signed_natAbs] at hreads
  exact hreads

private theorem isAlphanum_of_mem (spec : Spec) (hverb : verb ∈ integerVerbs)
    (h : Numeral (radixOf verb) digits m) {c : Char} (hc : c ∈ markChars spec verb ++ digits) :
    c.isAlphanum = true := by
  have hall : ∀ verb ∈ integerVerbs, (radixMark verb).all Char.isAlphanum = true :=
    forall_integerVerbs (by decide)
  obtain hc | hc := List.mem_append.mp hc
  · rw [markChars] at hc
    split at hc
    · exact List.all_eq_true.mp (hall verb hverb) c hc
    · exact (List.not_mem_nil hc).elim
  · exact h.isAlphanum (radixOf_bounds hverb).2 hc

/-- A text is read in one way. -/
theorem ReadsAs.unique {a b : Int} (h : ReadsAs spec verb cs a) (k : ReadsAs spec verb cs b)
    (hverb : verb ∈ integerVerbs) : a = b := by
  obtain @⟨_, _, n, sign, digits, negative, hs, hd, hcs⟩ := h
  obtain @⟨_, _, n', sign', digits', negative', hs', hd', hcs'⟩ := k
  -- without the spaces it is a sign and what begins with a letter or a digit
  have hfilter {before after m : Nat} {sign digits : List Char} {negative : Bool}
      (hs : Sign sign negative) (hd : Numeral (radixOf verb) digits m)
      (hcs : cs = List.replicate before ' ' ++ (sign ++ (markChars spec verb ++ digits)) ++
        List.replicate after ' ') :
      Number.splitSign (cs.filter (· ≠ ' ')) = (negative, markChars spec verb ++ digits) := by
    have hbody : (markChars spec verb ++ digits).filter (· ≠ ' ') =
        markChars spec verb ++ digits := by
      rw [List.filter_eq_self]
      intro c hc
      rw [decide_eq_true_eq]
      rintro rfl
      exact absurd (isAlphanum_of_mem spec hverb hd hc) (by decide)
    have hsign : sign.filter (· ≠ ' ') = sign := by
      cases hs with
      | none | plus | minus => rfl
    have hspaces (k : Nat) : (List.replicate k ' ').filter (· ≠ ' ') = [] := by simp
    rw [hcs, List.filter_append, List.filter_append, List.filter_append, hspaces, hspaces, hsign,
      hbody, List.nil_append, List.append_nil]
    exact hs.splitSign_append fun c hc ↦ isAlphanum_of_mem spec hverb hd hc
  have heq := (hfilter hs hd hcs).symm.trans (hfilter hs' hd' hcs')
  obtain ⟨rfl, hdigits⟩ := Prod.mk.inj heq
  have hn : n = n' := by
    rw [List.append_cancel_left hdigits] at hd
    exact hd.unique hd' (radixOf_bounds hverb).2
  rw [hn]

/-- The part of a text from the first letter or digit on is the mark of the base, digits, and
spaces. -/
theorem ReadsAs.dropWhile_eq (h : ReadsAs spec verb cs n) (hverb : verb ∈ integerVerbs) :
    ∃ digits m after, Numeral (radixOf verb) digits m ∧
      cs.dropWhile (fun c ↦ !c.isAlphanum) =
        (markChars spec verb ++ digits) ++ List.replicate after ' ' := by
  obtain @⟨before, after, m, sign, digits, negative, hs, hd, hcs⟩ := h
  refine ⟨digits, m, after, hd, ?_⟩
  have hlead : ∀ c ∈ List.replicate before ' ' ++ sign, (!c.isAlphanum) = true := by
    intro c hc
    obtain hc | hc := List.mem_append.mp hc
    · rw [List.eq_of_mem_replicate hc]
      rfl
    · cases hs with
      | none => exact (List.not_mem_nil hc).elim
      | plus | minus =>
        rw [List.mem_singleton.mp hc]
        rfl
  have hsplit : cs = (List.replicate before ' ' ++ sign) ++
      ((markChars spec verb ++ digits) ++ List.replicate after ' ') := by
    rw [hcs]
    simp only [List.append_assoc]
  rw [hsplit, List.dropWhile_append_of_pos hlead]
  obtain ⟨c, rest, hbody⟩ : ∃ c rest, markChars spec verb ++ digits = c :: rest := by
    cases hbody : markChars spec verb ++ digits with
    | nil => exact (hd.ne_nil (List.append_eq_nil_iff.mp hbody).2).elim
    | cons c rest => exact ⟨c, rest, rfl⟩
  have hc := isAlphanum_of_mem spec hverb hd (hbody ▸ List.mem_cons_self)
  rw [hbody, List.cons_append, List.dropWhile_cons_of_neg (by simp [hc])]

/-! ### Where the zeros go -/

private theorem not_isAlphanum_of_mem {c : Char} (hc : c ∈ signChars spec negative) :
    c.isAlphanum = false := by
  rw [signChars] at hc
  split at hc
  · rw [List.mem_singleton.mp hc]
    rfl
  · split at hc
    · rw [List.mem_singleton.mp hc]
      rfl
    · split at hc
      · rw [List.mem_singleton.mp hc]
        rfl
      · exact (List.not_mem_nil hc).elim

private theorem not_isDigit_of_mem {c : Char} (hc : c ∈ signChars spec negative) :
    c.isDigit = false := by
  have halpha := not_isAlphanum_of_mem hc
  rw [Char.isAlphanum, Bool.or_eq_false_iff] at halpha
  exact halpha.2

/-- Zeros in front of a mark make it unreadable. -/
theorem not_readsAs_of_mark (hverb : verb ∈ integerVerbs) {c : Char}
    (hmark : markChars spec verb = ['0', c]) (hc : c ≠ '0') {k : Nat} (hk : k ≠ 0) :
    ¬ ReadsAs spec verb (signChars spec negative ++
      (List.replicate k '0' ++ (markChars spec verb ++ digits))) n := by
  intro h
  obtain ⟨digits', m, after, -, hdrop⟩ := h.dropWhile_eq hverb
  obtain ⟨k, rfl⟩ := Nat.exists_eq_succ_of_ne_zero hk
  have hsign : ∀ c ∈ signChars spec negative, (!c.isAlphanum) = true := fun c hc ↦ by
    rw [not_isAlphanum_of_mem hc]
    rfl
  have hzeros : List.replicate (k + 1) '0' ++ (['0', c] ++ digits) =
      '0' :: '0' :: (List.replicate k '0' ++ c :: digits) := by
    rw [List.replicate_succ, List.cons_append, List.cons_append, List.append_cons,
      ← List.replicate_succ']
    rfl
  rw [List.dropWhile_append_of_pos hsign, hmark, hzeros, List.dropWhile_cons_of_neg (by decide)]
    at hdrop
  exact hc (List.cons.inj (List.cons.inj hdrop).2).1.symm

/-- Zeros in front of a sign make it unreadable. -/
theorem not_readsAs_of_sign (hverb : verb ∈ integerVerbs) (hsign : signChars spec negative ≠ [])
    (hd : Numeral (radixOf verb) digits m) {k : Nat} (hk : k ≠ 0) :
    ¬ ReadsAs spec verb (List.replicate k '0' ++ (signChars spec negative ++ digits)) n := by
  intro h
  obtain ⟨digits', m', after, hd', hdrop⟩ := h.dropWhile_eq hverb
  obtain ⟨k, rfl⟩ := Nat.exists_eq_succ_of_ne_zero hk
  obtain ⟨s, signs, hsigns⟩ := List.exists_cons_of_ne_nil hsign
  have hs : s.isAlphanum = false := not_isAlphanum_of_mem (hsigns ▸ List.mem_cons_self)
  obtain ⟨c, hc⟩ := List.exists_mem_of_ne_nil digits hd.ne_nil
  rw [List.replicate_succ, List.cons_append, List.dropWhile_cons_of_neg (by decide),
    ← List.cons_append, ← List.replicate_succ, hsigns] at hdrop
  -- from the sign on there would be spaces only
  have hrest := congrArg (List.dropWhile Char.isAlphanum) hdrop
  rw [List.dropWhile_append_of_pos (fun c hc ↦ by rw [List.eq_of_mem_replicate hc]; rfl),
    List.dropWhile_append_of_pos (fun c hc ↦ isAlphanum_of_mem spec hverb hd' hc),
    List.cons_append, List.dropWhile_cons_of_neg (by simp [hs])] at hrest
  have hspace : c ∈ (List.replicate after ' ').dropWhile Char.isAlphanum := by
    rw [← hrest]
    exact List.mem_cons_of_mem _ (List.mem_append_right _ hc)
  have hc' := List.eq_of_mem_replicate ((List.dropWhile_suffix _).subset hspace)
  rw [hc'] at hc
  exact absurd (hd.isAlphanum (radixOf_bounds hverb).2 hc) (by decide)

/-- Zeros among the digits make another integer. -/
theorem not_readsAs_of_letter (hverb : verb ∈ integerVerbs) (hmark : markChars spec verb = [])
    {ahead rest : List Char} (hd : Numeral (radixOf verb) (ahead ++ rest) m)
    (hn : (if negative then -(m : Int) else m) = n) (hahead : ahead ≠ [])
    (hletter : ∀ c ∈ ahead, c.isDigit = false) (hrest : rest ≠ []) {k : Nat} (hk : k ≠ 0) :
    ¬ ReadsAs spec verb (signChars spec negative ++
      (ahead ++ (List.replicate k '0' ++ rest))) n := by
  obtain ⟨m', hd', hlt⟩ := hd.insert_zeros (radixOf_bounds hverb).2 hahead hletter hrest hk
  have hreads := ReadsAs.of_numeral spec negative hd' 0 0
  rw [hmark] at hreads
  intro h
  simp only [List.replicate_zero, List.nil_append, List.append_nil] at hreads
  have heq := hn.trans (h.unique hreads hverb)
  split at heq
  · omega
  · omega

private theorem markChars_eq (hverb : verb ∈ integerVerbs)
    (h : ¬ (spec.sharp = true ∧ verb ∈ ['b', 'x', 'X'])) :
    (∃ j, markChars spec verb = List.replicate j '0') ∧
      (10 < radixOf verb → markChars spec verb = []) := by
  have hall : ∀ verb ∈ integerVerbs, verb ∉ ['b', 'x', 'X'] →
      (radixMark verb = List.replicate 0 '0' ∨ radixMark verb = List.replicate 1 '0') ∧
        radixOf verb ≤ 10 := forall_integerVerbs (by decide)
  rw [markChars]
  cases hsharp : spec.sharp with
  | false => exact ⟨⟨0, rfl⟩, fun _ ↦ rfl⟩
  | true =>
    obtain ⟨hmark, hbase⟩ := hall verb hverb fun hmem ↦ h ⟨hsharp, hmem⟩
    rw [if_pos rfl]
    refine ⟨hmark.elim (⟨0, ·⟩) (⟨1, ·⟩), fun hlt ↦ ?_⟩
    omega

section Zeros

variable {c : Char} {rest : List Char} (hverb : verb ∈ integerVerbs) (hminus : spec.minus = false)
  (hzero : spec.zero = true)

include hverb hminus hzero

/-- Zeros go in front of the mark, which has a decimal digit. -/
theorem not_keeps_of_mark (hlt : (integerChars spec verb n).length < spec.width.getD 0)
    (hmark : spec.sharp = true ∧ verb ∈ ['b', 'x', 'X']) :
    ¬ Keeps spec verb n (pad spec (integerChars spec verb n) true) := by
  have hall : ∀ verb ∈ ['b', 'x', 'X'], radixMark verb = ['0', verb] ∧ verb ≠ '0' := by
    simp [radixMark]
  obtain ⟨hradix, hne⟩ := hall verb hmark.2
  have hchars : markChars spec verb = ['0', verb] := (if_pos hmark.1).trans hradix
  have hbody : integerChars spec verb n =
      signChars spec (n < 0) ++ '0' :: (verb :: digitChars verb n.natAbs) := by
    rw [integerChars_eq, hchars]
    rfl
  have hfill : spec.width.getD 0 - (integerChars spec verb n).length ≠ 0 := by omega
  have hnot : ¬ ReadsAs spec verb (signChars spec (n < 0) ++
      (List.replicate (spec.width.getD 0 - (integerChars spec verb n).length) '0' ++
        (markChars spec verb ++ digitChars verb n.natAbs))) n :=
    not_readsAs_of_mark hverb hchars hne hfill
  intro h
  have hreads := h.reads
  rw [hbody, pad_append hminus hzero (fun c hc ↦ not_isDigit_of_mem hc) (by decide), ← hbody]
    at hreads
  rw [hchars] at hnot
  exact hnot hreads

/-- Zeros go in front of a first digit that is decimal, and in front of a mark that is a zero. -/
theorem keeps_of_isDigit (hmark : ¬ (spec.sharp = true ∧ verb ∈ ['b', 'x', 'X']))
    (hdigits : digitChars verb n.natAbs = c :: rest) (hc : c.isDigit = true) :
    Keeps spec verb n (pad spec (integerChars spec verb n) true) := by
  obtain ⟨⟨j, hj⟩, -⟩ := markChars_eq hverb hmark
  have hbody : integerChars spec verb n =
      signChars spec (n < 0) ++ (List.replicate j '0' ++ digitChars verb n.natAbs) := by
    rw [integerChars_eq, hj]
  obtain ⟨d, ds, hds, hd⟩ : ∃ d ds, List.replicate j '0' ++ digitChars verb n.natAbs = d :: ds ∧
      d.isDigit = true := by
    cases j with
    | zero => exact ⟨c, rest, hdigits, hc⟩
    | succ j => exact ⟨'0', _, rfl, rfl⟩
  have hswap (k : Nat) : List.replicate k '0' ++
      (List.replicate j '0' ++ digitChars verb n.natAbs) =
        List.replicate j '0' ++ (List.replicate k '0' ++ digitChars verb n.natAbs) := by
    rw [← List.append_assoc, List.replicate_append_replicate, Nat.add_comm,
      ← List.replicate_append_replicate, List.append_assoc]
  have hpad : pad spec (signChars spec (n < 0) ++ d :: ds) true = _ :=
    pad_append hminus hzero (fun c hc ↦ not_isDigit_of_mem hc) hd
  rw [← hds, ← hbody, hswap, ← hj] at hpad
  exact .of_fill hverb (length_pad ..) ⟨0, _, 0, by simpa using hpad⟩

variable (hmark : markChars spec verb = [])

include hmark

/-- Zeros go in front of letters that are all there is. -/
theorem keeps_of_letters (hsign : signChars spec (n < 0) = [])
    (hletters : ∀ c ∈ digitChars verb n.natAbs, c.isDigit = false) :
    Keeps spec verb n (pad spec (integerChars spec verb n) true) := by
  have hbody : integerChars spec verb n = digitChars verb n.natAbs := by
    rw [integerChars_eq, hsign, hmark, List.nil_append, List.nil_append]
  have hpad := pad_of_not_isDigit hminus hzero hletters
  refine .of_fill hverb (length_pad ..)
    ⟨0, spec.width.getD 0 - (digitChars verb n.natAbs).length, 0, ?_⟩
  rw [hbody, hpad, hsign, hmark]
  simp

variable (hlt : (integerChars spec verb n).length < spec.width.getD 0)

include hlt

/-- Zeros go in front of a sign if there is no decimal digit. -/
theorem not_keeps_of_sign (hsign : signChars spec (n < 0) ≠ [])
    (hletters : ∀ c ∈ digitChars verb n.natAbs, c.isDigit = false) :
    ¬ Keeps spec verb n (pad spec (integerChars spec verb n) true) := by
  have hbody : integerChars spec verb n = signChars spec (n < 0) ++ digitChars verb n.natAbs := by
    rw [integerChars_eq, hmark, List.nil_append]
  have hpad : pad spec (integerChars spec verb n) true = _ :=
    pad_of_not_isDigit hminus hzero fun c hc ↦ by
      rw [hbody] at hc
      exact (List.mem_append.mp hc).elim not_isDigit_of_mem (hletters c)
  intro h
  have hreads := h.reads
  rw [hpad] at hreads
  nth_rewrite 2 [hbody] at hreads
  exact not_readsAs_of_sign hverb hsign (numeral_digitChars hverb n.natAbs) (by omega) hreads

/-- Zeros go behind the letters that come before the first decimal digit. -/
theorem not_keeps_of_letter {ahead : List Char}
    (hdigits : digitChars verb n.natAbs = ahead ++ c :: rest) (hahead : ahead ≠ [])
    (hletter : ∀ c ∈ ahead, c.isDigit = false) (hc : c.isDigit = true) :
    ¬ Keeps spec verb n (pad spec (integerChars spec verb n) true) := by
  have hbody : integerChars spec verb n =
      (signChars spec (n < 0) ++ ahead) ++ c :: rest := by
    rw [integerChars_eq, hmark, hdigits, List.nil_append, List.append_assoc]
  have hpad : pad spec ((signChars spec (n < 0) ++ ahead) ++ c :: rest) true = _ :=
    pad_append hminus hzero
      (fun c hc ↦ (List.mem_append.mp hc).elim not_isDigit_of_mem (hletter c)) hc
  have hnumeral := numeral_digitChars hverb n.natAbs
  rw [← hbody, List.append_assoc] at hpad
  rw [hdigits] at hnumeral
  intro h
  have hreads := h.reads
  rw [hpad] at hreads
  exact not_readsAs_of_letter hverb hmark hnumeral (signed_natAbs n) hahead hletter
    (List.cons_ne_nil c rest) (by omega) hreads

/-- Zeros go where digits begin with a letter only if there is neither a sign nor a decimal digit.
-/
theorem keeps_iff_of_letter
    (hfirst : (digitChars verb n.natAbs).head?.any Char.isDigit = false) :
    Keeps spec verb n (pad spec (integerChars spec verb n) true) ↔
      signChars spec (n < 0) = [] ∧ (digitChars verb n.natAbs).any Char.isDigit = false := by
  cases hdecimal : (digitChars verb n.natAbs).find? Char.isDigit with
  | some d =>
    obtain ⟨hd, ahead, rest, hsplit, hletter⟩ := List.find?_eq_some_iff_append.mp hdecimal
    have hahead : ahead ≠ [] := by
      rintro rfl
      rw [hsplit] at hfirst
      exact absurd (hd.symm.trans hfirst) (by decide)
    have hany : (digitChars verb n.natAbs).any Char.isDigit = true :=
      List.any_eq_true.mpr ⟨d, List.mem_of_find?_eq_some hdecimal, hd⟩
    refine iff_of_false
      (not_keeps_of_letter hverb hminus hzero hmark hlt hsplit hahead (by simpa using hletter)
        hd) ?_
    rintro ⟨-, hnone⟩
    exact absurd (hany.symm.trans hnone) (by decide)
  | none =>
    have hletters : ∀ c ∈ digitChars verb n.natAbs, c.isDigit = false := by
      simpa using List.find?_eq_none.mp hdecimal
    have hnone : (digitChars verb n.natAbs).any Char.isDigit = false := by simpa using hletters
    by_cases hsign : signChars spec (n < 0) = []
    · exact iff_of_true (keeps_of_letters hverb hminus hzero hmark hsign hletters) ⟨hsign, hnone⟩
    · exact iff_of_false (not_keeps_of_sign hverb hminus hzero hmark hlt hsign hletters)
        fun h ↦ hsign h.1

end Zeros

/-- The zeros that fill up an integer go where its digits begin, unless they are misplaced. -/
theorem keeps_pad_iff (hverb : verb ∈ integerVerbs) :
    Keeps spec verb n (pad spec (integerChars spec verb n) true) ↔ ¬ Misplaces spec verb n := by
  by_cases hspaces : spec.minus = true ∨ spec.zero = false ∨
      spec.width.getD 0 ≤ (integerChars spec verb n).length
  · obtain ⟨before, after, hpad⟩ := pad_spaces hspaces
    refine iff_of_true (.of_fill hverb (length_pad ..) ⟨before, 0, after, hpad⟩) ?_
    rintro ⟨hzero, hminus, hlt, -⟩
    rw [hzero, hminus] at hspaces
    simp at hspaces
    omega
  simp only [not_or, Bool.not_eq_true, Bool.not_eq_false, Nat.not_le] at hspaces
  obtain ⟨hminus, hzero, hlt⟩ := hspaces
  by_cases hmark : spec.sharp = true ∧ verb ∈ ['b', 'x', 'X']
  · exact iff_of_false (not_keeps_of_mark hverb hminus hzero hlt hmark)
      (not_not_intro ⟨hzero, hminus, hlt, .inl hmark⟩)
  obtain ⟨c, rest, hdigits⟩ :=
    List.exists_cons_of_ne_nil (numeral_digitChars hverb n.natAbs).ne_nil
  cases hc : c.isDigit with
  | true =>
    refine iff_of_true (keeps_of_isDigit hverb hminus hzero hmark hdigits hc) ?_
    rintro ⟨-, -, -, hmark' | ⟨hletter, -⟩⟩
    · exact hmark hmark'
    · rw [hdigits] at hletter
      exact absurd (hletter.symm.trans hc) (by decide)
  | false =>
    have hbase : 10 < radixOf verb := by
      by_contra hbase
      have hdigit := (numeral_digitChars hverb n.natAbs).isDigit (Nat.le_of_not_lt hbase)
        (hdigits ▸ List.mem_cons_self)
      exact absurd (hdigit.symm.trans hc) (by decide)
    have hfirst : (digitChars verb n.natAbs).head?.any Char.isDigit = false := by
      rw [hdigits]
      exact hc
    rw [keeps_iff_of_letter hverb hminus hzero ((markChars_eq hverb hmark).2 hbase) hlt hfirst]
    simp only [Misplaces, hzero, hminus, hlt, hmark, hfirst, true_and, false_or, ne_eq, not_or,
      not_not, Bool.not_eq_true]

/-- What the formatting function writes for an integer with flags and a width has as many characters
as the width says, or as the integer needs, and is the integer unless the zeros are misplaced. -/
theorem printf_keeps_iff (hflags : ∀ c ∈ flags, isFlag c = true) (hwidth : width ≤ sizeLimit)
    (hverb : verb ∈ integerVerbs) (hv : Argument.integer? v = some n) :
    ∃ out, Builtin.printf.plain [.text (directive flags width verb), v] =
        .done (.single (.text out)) ∧
      out.length = max width (integerChars (specOf flags width) verb n).length ∧
      (Keeps (specOf flags width) verb n out.toList ↔ ¬ Misplaces (specOf flags width) verb n) := by
  refine ⟨_, printf_directive hflags hwidth hverb hv, ?_, ?_⟩
  · rw [String.length_ofList, length_pad, specOf_width]
  · rw [String.toList_ofList]
    exact keeps_pad_iff hverb

/-- Zeros go behind the sign of a decimal integer. -/
theorem printf_keeps_decimal :
    ∃ out, Builtin.printf.plain [.text "%+08d", .int 42] = .done (.single (.text out)) ∧
      Keeps (specOf ['+', '0'] 8) 'd' 42 out.toList := by
  have hflags : ∀ c ∈ ['+', '0'], isFlag c = true := List.all_eq_true.mp rfl
  have hwidth : 8 ≤ sizeLimit := by decide
  have hverb : 'd' ∈ integerVerbs := by decide
  have hv : Argument.integer? (.int 42) = some 42 := rfl
  have hdirective : directive ['+', '0'] 8 'd' = "%+08d" := by decide
  obtain ⟨out, hout, -, hkeeps⟩ := printf_keeps_iff hflags hwidth hverb hv
  rw [hdirective] at hout
  exact ⟨out, hout, hkeeps.mpr (by decide)⟩

/-- They go into the middle of an integer of base 16 that begins with a letter, and make another
integer of it. -/
theorem not_keeps_hexadecimal :
    Builtin.printf.plain [.text "%08x", .int 4081] = .done (.single (.text "ff000001")) ∧
      ReadsAs (specOf ['0'] 8) 'x' "ff000001".toList 0xff000001 ∧
        ¬ ReadsAs (specOf ['0'] 8) 'x' "ff000001".toList 4081 := by
  have hverb : 'x' ∈ integerVerbs := by decide
  have hdirective : directive ['0'] 8 'x' = "%08x" := by decide
  have hwrite : String.ofList (pad (specOf ['0'] 8) (integerChars (specOf ['0'] 8) 'x' 4081) true) =
      "ff000001" := by decide
  have hflags : ∀ c ∈ ['0'], isFlag c = true := List.all_eq_true.mp rfl
  have hwidth : 8 ≤ sizeLimit := by decide
  have hv : Argument.integer? (.int 4081) = some 4081 := rfl
  have hprintf := printf_directive hflags hwidth hverb hv
  have hreads : ReadsAs (specOf ['0'] 8) 'x' "ff000001".toList 0xff000001 :=
    .of_numeral _ false (.toDigits (by decide) 0xff000001) 0 0
  rw [hdirective, hwrite] at hprintf
  exact ⟨hprintf, hreads, fun h ↦ absurd (h.unique hreads hverb) (by decide)⟩

end TextTemplate.Format
