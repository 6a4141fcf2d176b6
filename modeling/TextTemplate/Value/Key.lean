import TextTemplate.Number.Decimal
import TextTemplate.Number.Word
import TextTemplate.Text.Quoted

/-!
# Keys

A key of a map is a truth value, a number of one of three kinds, or a text. Keys are ordered:
truth values first, then the numbers by value whatever their kind, then the texts. Numbers of
different kinds that tie are ordered by kind, so that different keys never count as one.
-/

set_option autoImplicit false

namespace TextTemplate

/-- A key of a map. -/
inductive Key where
  | bool (b : Bool)
  | int (n : Int64)
  | uint (n : UInt64)
  | float (x : Binary64)
  | text (s : String)
deriving DecidableEq

namespace Key

/-- The place of a key's class in the order of keys. -/
def classRank : Key → Nat
  | bool _ => 0
  | int _ | uint _ | float _ => 1
  | text _ => 2

/-- The place of a key's kind among numbers that tie. -/
def kindRank : Key → Nat
  | int _ => 0
  | uint _ => 1
  | _ => 2

/-- The order of two numbers by value. Integers compare with each other, a signed one being
converted to an unsigned one, and with a floating-point number as the one nearest to them. -/
def compareValue : Key → Key → Ordering
  | int a, int b => compare a.toInt b.toInt
  | uint a, uint b => compare a.toNat b.toNat
  | float a, float b => a.totalOrder b
  | int a, uint b => Number.compareSigned a b
  | uint a, int b => Number.compareUnsigned a b
  | int a, float b => (Binary64.ofInt a.toInt).totalOrder b
  | uint a, float b => (Binary64.ofInt a.toNat).totalOrder b
  | float a, int b => a.totalOrder (Binary64.ofInt b.toInt)
  | float a, uint b => a.totalOrder (Binary64.ofInt b.toNat)
  | _, _ => .eq

/-- The order of keys. -/
def order : Key → Key → Ordering
  | bool a, bool b => compare a b
  | text a, text b => compare a b
  | a, b =>
    (compare a.classRank b.classRank).then
      ((compareValue a b).then (compare a.kindRank b.kindRank))

/-- The printed form of a key. -/
def print : Key → String
  | bool b => if b then "true" else "false"
  | int n => toString n.toInt
  | uint n => toString n.toNat
  | float x => x.print
  | text s => s

/-- The form of a key in a listing. -/
def listing : Key → String
  | bool b => "Bool(" ++ (if b then "true" else "false") ++ ")"
  | int n => "Int(" ++ toString n.toInt ++ ")"
  | uint n => "Uint(" ++ toString n.toNat ++ ")"
  | float x => "Float(" ++ String.ofList (FloatText.listedKey.chars x) ++ ")"
  | text s => "Str(" ++ Text.quote s ++ ")"

/-- The text of a key that is one. -/
def asText? : Key → Option String
  | text s => some s
  | _ => none

end Key

end TextTemplate
