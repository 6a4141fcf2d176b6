import TextTemplate.Value.Cell

/-!
# Shared resources

What values and executors refer to by number: the queues of channels and the stores that
executors keep between renders. Two numbers that are equal mean one resource, so a change is seen
by all that hold it. Objects and cells are numbered as they are made, and the host keeps a state of
its own.
-/

set_option autoImplicit false

namespace TextTemplate

/-- The shared resources of a run. -/
structure Resources where
  /-- The items waiting in each channel. All channels are closed. -/
  channels : Array (List Value)
  /-- The local data of executors. -/
  stores : Array (Dict Value)
  /-- The number of the next object or cell. -/
  nextNumber : Nat
  /-- The host's own state. -/
  hostState : Value

namespace Resources

/-- No channel and no store, with a state of the host. -/
def initial (hostState : Value) : Resources := ⟨#[], #[], 0, hostState⟩

/-- The items waiting in a channel. -/
def queue (r : Resources) (channel : Nat) : List Value := r.channels.getD channel []

/-- The number of items waiting in a channel. -/
def queued (r : Resources) (channel : Nat) : Nat := (r.queue channel).length

/-- Makes a closed channel that holds some items. -/
def newChannel (r : Resources) (items : List Value) : Value × Resources :=
  (.chan r.channels.size, { r with channels := r.channels.push items })

/-- Takes the first item out of a channel. -/
def receive (r : Resources) (channel : Nat) : Option Value × Resources :=
  match r.queue channel with
  | [] => (none, r)
  | v :: rest => (some v, { r with channels := r.channels.setIfInBounds channel rest })

/-- The content of a store. -/
def store (r : Resources) (id : Nat) : Dict Value := r.stores.getD id .empty

/-- Makes an empty store. -/
def newStore (r : Resources) : Nat × Resources :=
  (r.stores.size, { r with stores := r.stores.push .empty })

/-- Changes the content of a store. -/
def updateStore (r : Resources) (id : Nat) (f : Dict Value → Dict Value) : Resources :=
  { r with stores := r.stores.modify id f }

/-- Makes an object. -/
def newObject (r : Resources) (o : Object) : Value × Resources :=
  (.object r.nextNumber (o.numbered r.nextNumber), { r with nextNumber := r.nextNumber + 1 })

/-- Takes up a value. -/
def hold (r : Resources) (v : Value) : Value × Resources :=
  let (v, free) := v.hold r.nextNumber
  (v, { r with nextNumber := free })

end Resources

end TextTemplate
