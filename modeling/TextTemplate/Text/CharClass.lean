/-!
# Classes of characters

A class of characters is a table of closed ranges of code points, sorted and disjoint. The
tables themselves are data of the Unicode standard and stand in modules of their own.
-/

set_option autoImplicit false

namespace TextTemplate.Text

/-- A class of characters as the closed ranges of its code points. -/
structure CharClass where
  ranges : Array (Nat × Nat)

namespace CharClass

/-- Whether the class holds `c`. -/
def contains (k : CharClass) (c : Char) : Bool :=
  k.ranges.any fun r => r.1 ≤ c.toNat && c.toNat ≤ r.2

end CharClass

end TextTemplate.Text
