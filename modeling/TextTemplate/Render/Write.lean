import TextTemplate.Render.Walk

/-!
# Writing

Bytes go to the innermost sink. When a wrap receives its first content, the nodes before it are
walked with the sinks below the wrap as the output, and what the wrap held back follows.
-/

set_option autoImplicit false

namespace TextTemplate.Walk

/-- Writes to the writer below all sinks. -/
def writeBottom (bytes : ByteArray) : Walk Unit := fun s =>
  match s.writer.write bytes with
  | (w, none) => .done (.ok (), { s with writer := w })
  | (w, some fault) => .done (.error (.write fault), { s with writer := w })

/-- The sink of a number, which must be there. -/
def sinkAt (n : Nat) : Walk Sink := fun s =>
  match Stack.get? s.sinks n with
  | some sink => .done (.ok sink, s)
  | none => .done (.panic (some (outOfBounds s.sinks.length n)), s)

/-- Walks nodes with the oldest `level` sinks as the output. The other sinks, the variables and
the place are as before afterwards. -/
def below (level : Nat) (nodes : List Node) (dot : Value) : Walk Unit := do
  let saved ← read fun s => (Stack.above s.sinks level, s.place)
  modify (State.truncateSinks level)
  (inScope (Walk.nodes nodes dot)).after fun s =>
    { s with sinks := saved.1 ++ Stack.oldest s.sinks level, place := saved.2 }

/-- Writes at a level: to the last of the oldest sinks in this number, or to the writer where the
level is 0. A wrap with content lets bytes through to the level below it. -/
def writeLevel : Nat → ByteArray → Walk Unit
  | 0, bytes => writeBottom bytes
  | level + 1, bytes => do
    match ← sinkAt level with
    | .buffer _ =>
      modify fun s => { s with sinks := Stack.modify s.sinks level (·.append bytes) }
    | .wrap w =>
      if w.triggered then writeLevel level bytes
      else
        let (received, content) := w.receive bytes
        modify fun s => { s with sinks := Stack.modify s.sinks level fun _ => .wrap received }
        match content with
        | none => return ()
        | some content =>
          match w.before with
          | some nodes => below level nodes w.dot
          | none => pure ()
          writeLevel level content

/-- Writes bytes to the output. -/
def write (bytes : ByteArray) : Walk Unit := do
  if bytes.isEmpty then return ()
  writeLevel (← read fun s => s.sinks.length) bytes

/-- Writes a text to the output. -/
def writeText (s : String) : Walk Unit := write s.toUTF8

/-- Collects the output of a step. What the step gives is lost with the output if it fails. -/
def capture (m : Walk Unit) : Walk ByteArray := do
  let level ← read fun s => s.sinks.length
  modify fun s => { s with sinks := .buffer .empty :: s.sinks }
  let result ← m.attempt
  modify (State.truncateSinks (level + 1))
  let bytes ← read fun s => (Sink.popBuffer s.sinks).1
  modify fun s => { s with sinks := (Sink.popBuffer s.sinks).2 }
  ofExcept (result.map fun _ => bytes)

end TextTemplate.Walk
