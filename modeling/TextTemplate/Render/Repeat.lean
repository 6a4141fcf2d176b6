import TextTemplate.Render.Eval

/-!
# Loops

A loop walks its body once for each element of a collection. Its declarations choose what a round
binds: nothing or the element, which then is the dot; the state of the loop; the key and the
element; or whether the round is the last, the key and the element.
-/

set_option autoImplicit false

namespace TextTemplate

/-- What stays the same in all rounds of a loop. -/
structure Rounds where
  declarations : List Declaration
  body : List Node
  /-- The collection. -/
  source : Value
  /-- The dot outside of the loop. -/
  dot : Value
  /-- The number of variables that outlive a round. -/
  mark : Nat

namespace Rounds

/-- Whether the only declaration binds the state of the loop. -/
def byState (l : Rounds) : Bool :=
  match l.declarations with
  | [d] => d.byState
  | _ => false

/-- Binds the key and the element, and whether the round is the last if that is declared too. -/
def bindPair (l : Rounds) (key element : Value) (isLast : Bool) (vars : Bindings) : Bindings :=
  let vars := (vars.setFromEnd 1 element).setFromEnd 2 key
  if l.declarations.length = 3 then vars.setFromEnd 3 (.bool isLast) else vars

/-- Binds what a round binds, and gives its dot. -/
def bind (l : Rounds) (index : Nat) (key element : Value) (isLast : Bool) : Walk Value :=
  match l.declarations.length with
  | 0 => return element
  | 1 =>
    if l.byState then do
      let state ← Walk.newObject
        (.loopState element index key (index == 0) isLast l.source l.dot)
      Walk.modify fun s => { s with vars := s.vars.setFromEnd 1 state }
      return l.dot
    else do
      Walk.modify fun s => { s with vars := s.vars.setFromEnd 1 element }
      return element
  | _ => do
    Walk.modify fun s => { s with vars := l.bindPair key element isLast s.vars }
    return l.dot

/-- One round. -/
def round (l : Rounds) (index : Nat) (key element : Value) (isLast : Bool) : Walk Unit := do
  let dot ← l.bind index key element isLast
  (Walk.nodes l.body dot).after fun s => { s with vars := s.vars.take l.mark }

/-- The rounds over elements with their keys, numbered from `index`. -/
def pairs (l : Rounds) (index : Nat) : List (Value × Value) → Walk Unit
  | [] => return ()
  | (key, element) :: rest => do
    l.round index key element rest.isEmpty
    l.pairs (index + 1) rest

/-- The rounds over the last `left` numbers below `count`. -/
def count (l : Rounds) (count : Nat) : Nat → Walk Unit
  | 0 => return ()
  | left + 1 => do
    let index := count - (left + 1)
    l.round index (.ofNat index) (.ofNat index) (left == 0)
    Rounds.count l count left

/-- The rounds over the items of a channel, at most `fuel` of them. The item after the current
one is taken before each round, to know whether there is one. -/
def received (l : Rounds) (channel : Nat) : Nat → Nat → Option Value → Walk Unit
  | 0, _, _ => return ()
  | _ + 1, _, none => return ()
  | fuel + 1, index, some element => do
    let next ← Walk.receive channel
    l.round index (.ofNat index) element next.isNone
    l.received channel fuel (index + 1) next

end Rounds

namespace Walk

/-- Elements with their places as keys. -/
def indexed (elements : List Value) : List (Value × Value) :=
  elements.zipIdx.map fun (v, i) => (.ofNat i, v)

/-- All rounds of a loop over a collection, and whether there was one; or nothing if it is no
collection. -/
def rounds? (value : Value) : Option (Rounds → Walk Bool) :=
  let pairs (ps : List (Value × Value)) (l : Rounds) : Walk Bool := do
    l.pairs 0 ps
    return !ps.isEmpty
  match value with
  | .invalid | .nil => some fun _ => return false
  | .list elements _ => some (pairs (indexed elements))
  | .map entries _ => some (pairs (entries.entries.map fun e => (.ofKey e.1, e.2)))
  | .int n => some fun l => do
    l.count n.toInt.toNat n.toInt.toNat
    return 0 < n
  | .chan channel => some fun l => do
    let fuel ← read fun s => s.resources.queued channel
    let first ← receive channel
    l.received channel fuel 0 first
    return first.isSome
  | .object _ o => o.items?.map fun elements => pairs (indexed elements)
  | _ => none

/-- Walks a body for each element of the value of a pipeline, or other nodes if there is none. -/
def loop (host : Host) (pipe : Pipe) (body : List Node) (otherwise : Option (List Node))
    (dot : Value) : Walk Unit :=
  inScope do
    let value := (← pipe.eval host dot).indirect
    match rounds? value with
    | none => fail (.of (.notIterable value.print))
    | some run =>
      if 3 < pipe.declarations.length then fail (.new "too many declarations in range")
      let mark ← read fun s => s.vars.length
      let any ← run ⟨pipe.declarations, body, value, dot, mark⟩
      optional (if any then none else otherwise) dot

end Walk

end TextTemplate
