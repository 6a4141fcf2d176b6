/-!
# Operators

The binary operators of expressions, each with its one-character symbol.
-/

set_option autoImplicit false

namespace TextTemplate

/-- A binary operator. -/
inductive Operator where
  | add
  | sub
  | mul
  | div
  | rem
  /-- Exponentiation. -/
  | pow
  /-- Division rounded toward negative infinity. -/
  | floorDiv
deriving DecidableEq, Repr

namespace Operator

/-- The symbol of an operator. -/
def symbol : Operator → Char
  | add => '+'
  | sub => '-'
  | mul => '*'
  | div => '/'
  | rem => '%'
  | pow => '^'
  | floorDiv => '\\'

/-- The operator with a symbol. -/
def ofSymbol? (c : Char) : Option Operator :=
  [add, sub, mul, div, rem, pow, floorDiv].find? fun op => op.symbol == c

/-- The text of an operator. -/
def text (op : Operator) : String := String.singleton op.symbol

end Operator

end TextTemplate
