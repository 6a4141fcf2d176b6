/-!
# White space

Two notions of white space. Text is trimmed by the Unicode property `White_Space`; output is
held back by the five blank bytes of ASCII. The second is the smaller one: it knows neither the
vertical tab nor any blank beyond ASCII.
-/

set_option autoImplicit false

namespace TextTemplate.Text

/-- The characters with the property `White_Space`. -/
def isBlank (c : Char) : Bool :=
  (9 ≤ c.toNat && c.toNat ≤ 13) || c.toNat == 0x20 || c.toNat == 0x85 || c.toNat == 0xA0
    || c.toNat == 0x1680 || (0x2000 ≤ c.toNat && c.toNat ≤ 0x200A) || c.toNat == 0x2028
    || c.toNat == 0x2029 || c.toNat == 0x202F || c.toNat == 0x205F || c.toNat == 0x3000

/-- The blank bytes of ASCII: tab, line feed, form feed, carriage return and space. -/
def isBlankByte (b : UInt8) : Bool :=
  b == 9 || b == 10 || b == 12 || b == 13 || b == 32

/-- Drops the characters satisfying `p` from both ends. -/
def trimChars (p : Char → Bool) (cs : List Char) : List Char :=
  ((cs.dropWhile p).reverse.dropWhile p).reverse

/-- Drops the characters satisfying `p` from both ends of a text. -/
def trimWhere (p : Char → Bool) (s : String) : String :=
  String.ofList (trimChars p s.toList)

/-- Drops white space from both ends of a text. -/
def trim (s : String) : String := trimWhere isBlank s

/-- Whether a text holds white space only. -/
def isBlankText (s : String) : Bool := s.toList.all isBlank

end TextTemplate.Text
