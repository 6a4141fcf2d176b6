import TextTemplate.Text.Printable

/-!
# Quoted text

A quoted text stands between quotes. Inside, the quote and the backslash take a backslash, four
control characters have letters of their own, and a character that does not show is written as
its code point in hexadecimal.
-/

set_option autoImplicit false

namespace TextTemplate.Text

/-- A character inside a text quoted by `quote`. -/
def escapeChar (quote c : Char) : List Char :=
  if c = quote ∨ c = '\\' then ['\\', c]
  else if c = '\x00' then ['\\', '0']
  else if c = '\t' then ['\\', 't']
  else if c = '\n' then ['\\', 'n']
  else if c = '\r' then ['\\', 'r']
  else if isPrintable c then [c]
  else ['\\', 'u', '\x7b'] ++ Nat.toDigits 16 c.toNat ++ ['\x7d']

/-- A text between double quotes. -/
def quote (s : String) : String :=
  String.ofList ('"' :: s.toList.flatMap (escapeChar '"') ++ ['"'])

/-- A character between single quotes. -/
def quoteChar (c : Char) : String :=
  String.ofList ('\'' :: escapeChar '\'' c ++ ['\''])

end TextTemplate.Text
