import TextTemplate.Syntax.Node
import TextTemplate.Text.Blank
import TextTemplate.Value.Basic

/-!
# Output

A render writes bytes to a stack of sinks above a writer. A buffer keeps what it receives. A wrap
holds back white space until the first byte of content, and from then on lets everything through.
-/

set_option autoImplicit false

namespace TextTemplate

/-- How much a writer takes, and the text of its failure beyond that. -/
structure Capacity where
  size : Nat
  fault : String

/-- Where the output of a render ends up. -/
structure Writer where
  written : ByteArray
  capacity : Option Capacity

namespace Writer

/-- A writer that takes everything. -/
def unlimited : Writer := ⟨.empty, none⟩

/-- A writer that fails with a text after a number of bytes. -/
def limited (size : Nat) (fault : String) : Writer := ⟨.empty, some ⟨size, fault⟩⟩

/-- Writes bytes. What fits is written even if not everything does. -/
def write (w : Writer) (bytes : ByteArray) : Writer × Option String :=
  match w.capacity with
  | none => ({ w with written := w.written ++ bytes }, none)
  | some c =>
    let room := c.size - w.written.size
    if bytes.size ≤ room then ({ w with written := w.written ++ bytes }, none)
    else ({ w with written := w.written ++ bytes.extract 0 room }, some c.fault)

/-- Writes a text. -/
def writeText (w : Writer) (s : String) : Writer × Option String := w.write s.toUTF8

end Writer

/-- The number of bytes of white space that bytes begin with. -/
def leadingBlank (bytes : ByteArray) : Nat :=
  (bytes.data.toList.takeWhile Text.isBlankByte).length

/-- The sink of a wrap. -/
structure WrapSink where
  /-- Whether leading white space is dropped rather than held back. -/
  strip : Bool
  /-- Whether content has arrived. -/
  triggered : Bool
  /-- The white space held back. -/
  pending : ByteArray
  /-- The nodes to write before the content. -/
  before : Option (List Node)
  /-- The dot for those nodes. -/
  dot : Value

/-- What receives output. -/
inductive Sink where
  | buffer (bytes : ByteArray)
  | wrap (w : WrapSink)

namespace Sink

/-- Whether a sink lets everything through. -/
def isOpen : Sink → Bool
  | .buffer _ => false
  | .wrap w => w.triggered

/-- Adds bytes to a buffer. -/
def append (bytes : ByteArray) : Sink → Sink
  | .buffer held => .buffer (held ++ bytes)
  | .wrap w => .wrap w

/-- Takes a buffer off a stack of sinks, if one is on top. -/
def popBuffer : List Sink → ByteArray × List Sink
  | .buffer held :: rest => (held, rest)
  | sinks => (.empty, sinks)

end Sink

namespace WrapSink

/-- The sink at the start of a wrap. -/
def fresh (strip : Bool) (before : Option (List Node)) (dot : Value) : WrapSink :=
  ⟨strip, false, .empty, before, dot⟩

/-- A wrap that has received bytes but no content until now, and what it lets through now that
content is among them. -/
def receive (w : WrapSink) (bytes : ByteArray) : WrapSink × Option ByteArray :=
  let n := leadingBlank bytes
  let held := if w.strip then w.pending else w.pending ++ bytes.extract 0 n
  if n = bytes.size then ({ w with pending := held }, none)
  else ({ w with triggered := true, pending := .empty }, some (held ++ bytes.extract n bytes.size))

end WrapSink

end TextTemplate
