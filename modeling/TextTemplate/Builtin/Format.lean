import TextTemplate.Builtin.Argument

/-!
# Formatting

A format is literal text with directives: a percent sign, flags, a width, a precision and a verb.
Each directive takes the next argument and writes it as its verb says. Mistakes are written into
the text instead of failing: a verb that does not apply, an argument that is missing or left
over, a directive that ends early, a width or precision beyond the limit.
-/

set_option autoImplicit false

namespace TextTemplate.Format

/-- Widths and precisions above this are dropped. -/
def sizeLimit : Nat := 1000000

/-- What stands between the percent sign and the verb. -/
structure Spec where
  minus : Bool
  plus : Bool
  zero : Bool
  space : Bool
  sharp : Bool
  width : Option Nat
  precision : Option Nat
  badWidth : Bool
  badPrecision : Bool

/-- A part of a format. -/
inductive Piece where
  | literal (c : Char)
  | directive (spec : Spec) (verb : Char)
  /-- A directive that ends with the format. -/
  | unfinished (spec : Spec)

/-- Whether a character is a flag. -/
def isFlag (c : Char) : Bool := c == '-' || c == '+' || c == '0' || c == ' ' || c == '#'

/-- Reads a number, if there is one. -/
def readNumber (cs : List Char) : Option Nat × List Char :=
  let ds := cs.takeWhile Char.isDigit
  (if ds.isEmpty then none else some (ds.foldl (fun n c => n * 10 + (c.toNat - '0'.toNat)) 0),
    cs.dropWhile Char.isDigit)

/-- A number within the limit. -/
def withinLimit (n : Option Nat) : Option Nat := n.filter (· ≤ sizeLimit)

/-- Whether a number exceeds the limit. -/
def beyondLimit (n : Option Nat) : Bool := n.any (sizeLimit < ·)

/-- Reads a precision: a point with a number, which may be left out. -/
def readPrecision : List Char → Option Nat × List Char
  | '.' :: cs => (some ((readNumber cs).1.getD 0), (readNumber cs).2)
  | cs => (none, cs)

/-- Reads what stands before a verb. -/
def readSpec (cs : List Char) : Spec × List Char :=
  let flags := cs.takeWhile isFlag
  let (width, cs) := readNumber (cs.dropWhile isFlag)
  let (precision, cs) := readPrecision cs
  ({ minus := flags.contains '-', plus := flags.contains '+', zero := flags.contains '0'
     space := flags.contains ' ', sharp := flags.contains '#'
     width := withinLimit width, precision := withinLimit precision
     badWidth := beyondLimit width, badPrecision := beyondLimit precision }, cs)

/-- Splits a format of at most `fuel` characters into its parts. -/
def readPieces : Nat → List Char → List Piece
  | 0, _ => []
  | _ + 1, [] => []
  | fuel + 1, c :: cs =>
    if c = '%' then
      match readSpec cs with
      | (spec, []) => [.unfinished spec]
      | (spec, verb :: rest) => .directive spec verb :: readPieces fuel rest
    else .literal c :: readPieces fuel cs

/-- Splits a format into its parts. -/
def pieces (cs : List Char) : List Piece := readPieces cs.length cs

/-! ## One argument -/

/-- The sign in front of a number. -/
def signChars (spec : Spec) (negative : Bool) : List Char :=
  if negative then ['-'] else if spec.plus then ['+'] else if spec.space then [' '] else []

/-- A magnitude with its sign. -/
def signed (spec : Spec) (negative : Bool) (magnitude : List Char) : List Char :=
  signChars spec negative ++ magnitude

/-- The base of a verb for integers. -/
def radixOf (verb : Char) : Nat :=
  if verb = 'b' then 2 else if verb = 'o' then 8 else if verb = 'x' ∨ verb = 'X' then 16 else 10

/-- What the sharp flag puts in front of the digits. -/
def radixMark (verb : Char) : List Char :=
  if verb = 'b' then ['0', 'b'] else if verb = 'o' then ['0']
  else if verb = 'x' then ['0', 'x'] else if verb = 'X' then ['0', 'X'] else []

/-- The digits of an integer for a verb. -/
def digitChars (verb : Char) (n : Nat) : List Char :=
  let ds := Nat.toDigits (radixOf verb) n
  if verb = 'X' then ds.map Char.toUpper else ds

/-- An integer. -/
def integerChars (spec : Spec) (verb : Char) (n : Int) : List Char :=
  signed spec (n < 0) ((if spec.sharp then radixMark verb else []) ++ digitChars verb n.natAbs)

/-- Whether a number is less than zero. -/
def isBelowZero (x : Binary64) : Bool := Binary64.numLt x .zero

/-- Whether a verb writes a number with places after the point, or with an exponent. -/
def isPlacesVerb (verb : Char) : Bool := verb == 'e' || verb == 'E' || verb == 'f' || verb == 'F'

/-- Whether a verb writes a number with as few digits as it takes. -/
def isShortestVerb (verb : Char) : Bool := verb == 'v' || verb == 'g' || verb == 'G'

/-- A number that is not finite, as the verbs with places write it. -/
def specialChars (x : Binary64) : List Char :=
  if x.isNaN then ['N', 'a', 'N'] else ['i', 'n', 'f']

/-- A number with places after the point, or with an exponent. -/
def placesChars (spec : Spec) (verb : Char) (x : Binary64) : List Char :=
  let count := spec.precision.getD 6
  signed spec (isBelowZero x) <|
    if verb = 'e' ∨ verb = 'E' then
      let (body, e) := if x.isFinite then x.significant count else (specialChars x, 0)
      body ++ verb :: FloatText.signedExponent e
    else if x.isFinite then x.places count
    else specialChars x

/-- A number with the fewest digits, or rounded to as many digits as the precision says. -/
def shortestChars (spec : Spec) (verb : Char) (x : Binary64) : List Char :=
  let rounded := match spec.precision with
    | some p => if x.isFinite then x.roundDigits (p - 1) else x.abs
    | none => x.abs
  let body := FloatText.printed.chars rounded
  signed spec (isBelowZero x) (if verb = 'G' then body.map Char.toUpper else body)

/-- The character of a code point; one that is no character is replaced. -/
def codePoint? (n : Int) : Option Char :=
  if 0 ≤ n ∧ n < Nat.pow 2 32 then
    some (if h : n.toNat.isValidChar then Char.ofNatAux n.toNat h else '\ufffd')
  else none

/-- The precision of a text limits its characters. -/
def truncate (spec : Spec) (s : String) : List Char :=
  match spec.precision with
  | some p => s.toList.take p
  | none => s.toList

/-- The bytes of a text in base 16. -/
def hexChars (verb : Char) (s : String) : List Char :=
  let ds := s.toUTF8.toList.flatMap fun b =>
    Nat.toDigits 16 (b.toNat / 16) ++ Nat.toDigits 16 (b.toNat % 16)
  if verb = 'X' then ds.map Char.toUpper else ds

/-- An integer for a verb, and whether it counts as a number. -/
def integerForm? (spec : Spec) (verb : Char) (n : Int) : Option (List Char × Bool) :=
  if verb = 'v' ∨ verb = 'd' then some (signed spec (n < 0) (Nat.toDigits 10 n.natAbs), true)
  else if verb = 'b' ∨ verb = 'o' ∨ verb = 'x' ∨ verb = 'X' then
    some (integerChars spec verb n, true)
  else if verb = 'q' then (codePoint? n).map fun c => ((Text.quoteChar c).toList, false)
  else if verb = 'c' then (codePoint? n).map fun c => ([c], false)
  else none

/-- A floating-point number for a verb, and whether it counts as a number. -/
def floatForm? (spec : Spec) (verb : Char) (x : Binary64) : Option (List Char × Bool) :=
  if isShortestVerb verb then some (shortestChars spec verb x, true)
  else if isPlacesVerb verb then some (placesChars spec verb x, true)
  else none

/-- A text for a verb, and whether it counts as a number. -/
def textForm? (spec : Spec) (verb : Char) (s : String) : Option (List Char × Bool) :=
  if verb = 'v' ∨ verb = 's' then some (truncate spec s, false)
  else if verb = 'q' then some ((Text.quote s).toList, false)
  else if verb = 'x' ∨ verb = 'X' then some (hexChars verb s, false)
  else none

/-- An argument for a verb, and whether it counts as a number; nothing where the verb does not
apply. -/
def form? (spec : Spec) (verb : Char) (arg : Value) : Option (List Char × Bool) :=
  if verb = 'T' then some (arg.typeName.toList, false)
  else match arg.indirect with
    | .int n => integerForm? spec verb n.toInt
    | .uint n => integerForm? spec verb n.toNat
    | .float x => floatForm? spec verb x
    | .text s => textForm? spec verb s
    | .bool b =>
      if verb = 't' then some ((boolText b).toList, false)
      else if verb = 'v' then some (truncate spec (boolText b), false)
      else none
    | v => if verb = 'v' ∨ verb = 's' then some (truncate spec v.argText, false) else none

/-- Fills a text up to the width: behind it, or in front of it with spaces or zeros. The zeros of
a number stand between its sign and its first digit. -/
def pad (spec : Spec) (body : List Char) (numeric : Bool) : List Char :=
  let fill := spec.width.getD 0 - body.length
  if spec.minus then body ++ List.replicate fill ' '
  else if spec.zero && numeric then
    let ahead := body.takeWhile fun c => !c.isDigit
    if ahead.length = body.length then List.replicate fill '0' ++ body
    else ahead ++ List.replicate fill '0' ++ body.drop ahead.length
  else List.replicate fill ' ' ++ body

/-- An argument with the name of its type. -/
def described (v : Value) : List Char := (v.typeName ++ "=" ++ v.argText).toList

/-- The mark for a verb that does not apply to an argument. -/
def badVerb (verb : Char) (arg : Value) : List Char :=
  '%' :: '!' :: verb :: '(' ::
    (if arg.isNil then nilText.toList else described arg) ++ [')']

/-- The marks for a width or precision that was dropped. -/
def limitMarks (spec : Spec) : List Char :=
  (if spec.badWidth then "%!(BADWIDTH)".toList else [])
    ++ (if spec.badPrecision then "%!(BADPREC)".toList else [])

/-- A directive applied to its argument. -/
def formatArg (spec : Spec) (verb : Char) (arg : Value) : List Char :=
  match form? spec verb arg with
  | some (body, numeric) => pad spec body numeric
  | none => badVerb verb arg

/-- The mark for the arguments that are left over. -/
def extraMark (args : List Value) : List Char :=
  if args.isEmpty then []
  else "%!(EXTRA ".toList ++ [',', ' '].intercalate (args.map described) ++ [')']

/-- Writes the parts of a format with the arguments that are left. -/
def write : List Piece → List Value → List Char
  | [], args => extraMark args
  | .literal c :: rest, args => c :: write rest args
  | .unfinished spec :: _, args => limitMarks spec ++ "%!(NOVERB)".toList ++ extraMark args
  | .directive spec verb :: rest, args =>
    limitMarks spec ++
      if verb = '%' then '%' :: write rest args
      else match args with
        | [] => '%' :: '!' :: verb :: ("(MISSING)".toList ++ write rest [])
        | arg :: args => formatArg spec verb arg ++ write rest args

/-! ## Places -/

/-- The most places that a number can be rounded to. -/
def placeLimit : Nat := 65535

/-- Whether a directive rounds its argument to more places than there can be. -/
def roundsTooFar (spec : Spec) (verb : Char) (arg : Value) : Bool :=
  match arg.indirect, spec.precision with
  | .float _, some p =>
    (isPlacesVerb verb && placeLimit < p) || (isShortestVerb verb && placeLimit < p - 1)
  | _, _ => false

/-- Whether some directive rounds the argument that it takes too far. -/
def anyTooFar : List Piece → List Value → Bool
  | .directive spec verb :: rest, arg :: args =>
    if verb = '%' then anyTooFar rest (arg :: args)
    else roundsTooFar spec verb arg || anyTooFar rest args
  | .literal _ :: rest, args => anyTooFar rest args
  | _, _ => false

/-- Whether a format cannot be applied to arguments. -/
def isOutOfRange (s : String) (args : List Value) : Bool := anyTooFar (pieces s.toList) args

/-- A format applied to arguments. -/
def format (s : String) (args : List Value) : String :=
  String.ofList (write (pieces s.toList) args)

end TextTemplate.Format
