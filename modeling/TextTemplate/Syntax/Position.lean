/-!
# Positions in a source

A byte offset is told to a reader as a line, counted from one, and a column, counted in bytes
from zero.
-/

set_option autoImplicit false

namespace TextTemplate

/-- A line and a column. -/
structure Position where
  line : Nat
  column : Nat
deriving DecidableEq, Repr

namespace Position

/-- Whether `pos` is the end of a text or the offset of the first byte of a character. -/
def isBoundary (bytes : List UInt8) (pos : Nat) : Bool :=
  match bytes.drop pos with
  | [] => pos ≤ bytes.length
  | b :: _ => b < 0x80 || 0xC0 ≤ b

/-- The number of bytes after the last line feed, if there is one. -/
def afterLastLine? (bytes : List UInt8) : Option Nat :=
  if bytes.contains 10 then some (bytes.reverse.takeWhile (· != 10)).length else none

/-- Columns are words of 64 bits. -/
def columnModulus : Nat := Nat.pow 2 64

/-- The position of an offset. An offset past the end is moved to the end; where no line feed
precedes it, the column is the offset itself. An offset inside a character is placed on the last
line of the whole text, and its column wraps around where that line begins behind it. -/
def locate (source : String) (offset : UInt32) : Position :=
  let bytes := source.toUTF8.toList
  let pos := min offset.toNat bytes.length
  let before := if isBoundary bytes pos then bytes.take pos else bytes
  { line := 1 + before.count 10
    column := match afterLastLine? before with
      | some rest => (columnModulus + pos - (before.length - rest)) % columnModulus
      | none => offset.toNat }

/-- The text of a position. -/
def text (p : Position) : String := toString p.line ++ ":" ++ toString p.column

end Position

end TextTemplate
