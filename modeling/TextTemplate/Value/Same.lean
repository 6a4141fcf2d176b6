import TextTemplate.Value.Basic

/-!
# Equality of values

Values are equal when they are held by one cell, or when they are of one kind and have equal
content. Numbers compare as numbers, so a NaN differs from itself, and a list that holds one
equals no list but itself; functions, objects and channels are equal when they are one and the
same.
-/

set_option autoImplicit false

namespace TextTemplate

/-- Whether two cells are one. Values that are in no cell share none. -/
def sameCell (c d : Option Nat) : Bool := c.isSome && c == d

mutual

/-- Whether two values are equal. -/
def Value.same : Value → Value → Bool
  | .invalid, .invalid => true
  | .nil, .nil => true
  | .bool a, .bool b => a == b
  | .int a, .int b => a == b
  | .uint a, .uint b => a == b
  | .float a, .float b => a.numEq b
  | .text a, .text b => a == b
  | .list a c, .list b d => sameCell c d || Value.sameAll a b
  | .map ⟨a⟩ c, .map ⟨b⟩ d => sameCell c d || Value.sameEntries a b
  | .record ⟨name, fields, _⟩ c, .record r d =>
    sameCell c d || (name == r.typeName && Value.sameFields fields r.fields)
  | .some a c, .some b d => sameCell c d || a.same b
  | .presence a found c, .presence b found' d => sameCell c d || (a.same b && found == found')
  | .func f, .func g => f.sameAs g
  | .object a _, .object b _ => a == b
  | .chan a, .chan b => a == b
  | .block a, .block b => a == b
  | _, _ => false
termination_by structural v => v

/-- Whether two lists hold equal values in the same order. -/
def Value.sameAll : List Value → List Value → Bool
  | [], [] => true
  | a :: as, b :: bs => a.same b && Value.sameAll as bs
  | _, _ => false
termination_by structural vs => vs

/-- Whether two lists of entries have equal keys and values in the same order. -/
def Value.sameEntries : List (Key × Value) → List (Key × Value) → Bool
  | [], [] => true
  | (k, a) :: as, (k', b) :: bs => k.order k' == .eq && a.same b && Value.sameEntries as bs
  | _, _ => false
termination_by structural es => es

/-- Whether two lists of fields have equal names and values in the same order. -/
def Value.sameFields : List (String × Value) → List (String × Value) → Bool
  | [], [] => true
  | (n, a) :: as, (n', b) :: bs => n == n' && a.same b && Value.sameFields as bs
  | _, _ => false
termination_by structural fs => fs

end

namespace Value

/-- For each pair of values, whether the two are equal. -/
def sameTable (vs : List Value) : List (List Bool) := vs.map fun v => vs.map v.same

end Value

end TextTemplate
