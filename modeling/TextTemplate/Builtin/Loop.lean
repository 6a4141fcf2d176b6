import TextTemplate.Builtin.Argument
import TextTemplate.Program

/-!
# Loops over a callback

A callback block can be run once for each item of a collection, with the state of the round as
its dot: the item, its key and place, whether it is the first or the last, the collection and the
outer dot.
-/

set_option autoImplicit false

namespace TextTemplate.Loop

/-- What stays the same in all rounds. -/
structure Frame where
  handle : Nat
  source : Value
  data : Value
  extra : List Value

/-- One round, and what comes after it. -/
def Frame.round (f : Frame) (index : Nat) (key value : Value) (isLast : Bool)
    (next : Program Results) : Program Results :=
  .newObject (.loopState value index key (index == 0) isLast f.source f.data) fun state =>
    .runBlock f.handle state f.extra false (.orFail fun _ => next)

/-- The rounds over keyed items, numbered from `index`. -/
def Frame.rounds (f : Frame) (index : Nat) : List (Value × Value) → Program Results
  | [] => .done .nothing
  | (key, value) :: rest => f.round index key value rest.isEmpty (f.rounds (index + 1) rest)

/-- The rounds over the items of a channel, at most `fuel` of them. The item after the current
one is taken before each round, to know whether there is one. -/
def Frame.channelRounds (f : Frame) (channel : Nat) : Nat → Nat → Option Value → Program Results
  | 0, _, _ => .done .nothing
  | _ + 1, _, none => .done .nothing
  | fuel + 1, index, some value =>
    .receive channel fun next =>
      f.round index (.uint (UInt64.ofNat index)) value next.isNone
        (f.channelRounds channel fuel (index + 1) next)

/-- Items with their places as keys. -/
def indexed (vs : List Value) : List (Value × Value) :=
  vs.zipIdx.map fun (v, i) => (.ofNat i, v)

/-- Runs the block that the second argument is the handle of, for each item of the third. -/
def program (args : List Value) : Program Results :=
  let source := args.getD 2 .invalid
  match args.getD 1 .invalid with
  | .block handle =>
    let f : Frame := ⟨handle, source, args.getD 0 .invalid, args.drop 3⟩
    match source.indirect with
    | .invalid | .nil => .done .nothing
    | .list items _ => f.rounds 0 (indexed items)
    | .map entries _ => f.rounds 0 (entries.entries.map fun e => (.ofKey e.1, e.2))
    | .chan channel =>
      .view fun view =>
        .receive channel fun first =>
          f.channelRounds channel (view.queued channel + 1) 0 first
    | other => .fail (.new ("range can't iterate over " ++ other.typeName))
  | handler =>
    .fail (.new ("range_callback: expected a callback handler, got " ++ handler.typeName))

end TextTemplate.Loop
