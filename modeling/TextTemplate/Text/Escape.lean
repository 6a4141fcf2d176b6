/-!
# Escaping

Three ways to write a text so that it stays text where it is put: in a page, in a quoted string
of a script, and in the query of an address. Each replaces single characters, or single bytes of
UTF-8, so the written text can be read back.
-/

set_option autoImplicit false

namespace TextTemplate.Text

/-- The digit of a value below 16, letters in upper case. -/
def upperHexDigit (n : Nat) : Char :=
  if n < 10 then Char.ofNat ('0'.toNat + n) else Char.ofNat ('A'.toNat + (n - 10))

/-- A character in a page. -/
def escapeHtmlChar (c : Char) : List Char :=
  if c = '"' then ['&', '#', '3', '4', ';']
  else if c = '\'' then ['&', '#', '3', '9', ';']
  else if c = '&' then ['&', 'a', 'm', 'p', ';']
  else if c = '<' then ['&', 'l', 't', ';']
  else if c = '>' then ['&', 'g', 't', ';']
  else if c = '\x00' then ['\ufffd']
  else [c]

/-- A text in a page. -/
def escapeHtml (s : String) : String := String.ofList (s.toList.flatMap escapeHtmlChar)

/-- The code unit `n` as an escape of a script. -/
def unitEscape (n : Nat) : List Char :=
  ['\\', 'u', upperHexDigit (n / 4096 % 16), upperHexDigit (n / 256 % 16),
    upperHexDigit (n / 16 % 16), upperHexDigit (n % 16)]

/-- Whether a character is a control character. -/
def isControl (c : Char) : Bool := c.toNat < 32 || (127 ≤ c.toNat && c.toNat < 160)

/-- A character in a quoted string of a script. -/
def escapeScriptChar (c : Char) : List Char :=
  if c = '\\' ∨ c = '\'' ∨ c = '"' then ['\\', c]
  else if c = '<' ∨ c = '>' ∨ c = '&' ∨ c = '=' ∨ isControl c then unitEscape c.toNat
  else [c]

/-- A text in a quoted string of a script. -/
def escapeScript (s : String) : String := String.ofList (s.toList.flatMap escapeScriptChar)

/-- Whether a byte stands for itself in a query: a letter, a digit or one of `-_.~`. -/
def isUnreserved (b : UInt8) : Bool :=
  (65 ≤ b && b ≤ 90) || (97 ≤ b && b ≤ 122) || (48 ≤ b && b ≤ 57)
    || b == 45 || b == 95 || b == 46 || b == 126

/-- A byte in a query. -/
def escapeQueryByte (b : UInt8) : List Char :=
  if isUnreserved b then [Char.ofNat b.toNat]
  else if b = 32 then ['+']
  else ['%', upperHexDigit (b.toNat / 16), upperHexDigit (b.toNat % 16)]

/-- A text in a query. -/
def escapeQuery (s : String) : String :=
  String.ofList (s.toUTF8.toList.flatMap escapeQueryByte)

end TextTemplate.Text
