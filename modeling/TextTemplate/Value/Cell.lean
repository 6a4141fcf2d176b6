import TextTemplate.Value.Basic

/-!
# Cells

A value that was just made is in no cell. Taking it up puts it into the next one that is free, and
the lists in it that were made with it into those that follow; what is already in a cell stays
there.
-/

set_option autoImplicit false

namespace TextTemplate.Value

mutual

/-- Takes up a value where `next` is the next free cell, and gives the one that is free then. -/
def hold : Value → Nat → Value × Nat
  | .list items .none, next =>
    let (items, free) := holdAll items [] (next + 1)
    (.list items (.some next), free)
  | .map entries .none, next => (.map entries (.some next), next + 1)
  | .record r .none, next => (.record r (.some next), next + 1)
  | .some v .none, next => (.some v (.some next), next + 1)
  | .presence v found .none, next => (.presence v found (.some next), next + 1)
  | v, next => (v, next)
termination_by structural v => v

/-- Takes up values one after the other, behind those of `taken`, the last of which comes first. -/
def holdAll : List Value → List Value → Nat → List Value × Nat
  | [], taken, next => (taken.reverse, next)
  | v :: vs, taken, next =>
    let (v, free) := hold v next
    holdAll vs (v :: taken) free
termination_by structural vs => vs

end

end TextTemplate.Value
