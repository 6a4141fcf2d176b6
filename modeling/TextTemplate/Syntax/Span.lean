/-!
# Spans

A span is a range of byte offsets in the source text of a template, the end excluded.
-/

set_option autoImplicit false

namespace TextTemplate

/-- A range of byte offsets. -/
structure Span where
  start : UInt32
  stop : UInt32
deriving DecidableEq, Repr, Inhabited

/-- Why a range of natural numbers is no span. -/
inductive SpanFault where
  | startTooLarge (start : Nat)
  | stopTooLarge (stop : Nat)
deriving DecidableEq, Repr

/-- The wording of a fault. -/
def SpanFault.message : SpanFault → String
  | .startTooLarge n => "span start " ++ toString n ++ " exceeds u32::MAX"
  | .stopTooLarge n => "span end " ++ toString n ++ " exceeds u32::MAX"

namespace Span

/-- The span of what was built without a source. -/
def none : Span := ⟨0, 0⟩

/-- The span of a range, unless an end does not fit into 32 bits. -/
def ofRange (start stop : Nat) : Except SpanFault Span :=
  if Nat.pow 2 32 ≤ start then .error (.startTooLarge start)
  else if Nat.pow 2 32 ≤ stop then .error (.stopTooLarge stop)
  else .ok ⟨start.toUInt32, stop.toUInt32⟩

/-- The empty span at an offset. -/
def point (offset : UInt32) : Span := ⟨offset, offset⟩

/-- The number of bytes. -/
def length (s : Span) : Nat := s.stop.toNat - s.start.toNat

/-- Whether a span holds no byte. -/
def isEmpty (s : Span) : Bool := s.stop ≤ s.start

/-- The least span that covers two spans. -/
def merge (a b : Span) : Span := ⟨min a.start b.start, max a.stop b.stop⟩

/-- The text of a span. -/
def text (s : Span) : String := toString s.start.toNat ++ ".." ++ toString s.stop.toNat

end Span

end TextTemplate
