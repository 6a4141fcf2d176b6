/-!
# Signatures

What a function accepts and what it hands back. The number of arguments is checked before any
of them is evaluated.
-/

set_option autoImplicit false

namespace TextTemplate

/-- The accepted numbers of arguments. -/
structure Arity where
  fixed : Nat
  /-- Whether more arguments are accepted. -/
  variadic : Bool
deriving DecidableEq, Repr

namespace Arity

/-- Exactly `n` arguments. -/
def exactly (n : Nat) : Arity := ⟨n, false⟩

/-- At least `n` arguments. -/
def atLeast (n : Nat) : Arity := ⟨n, true⟩

/-- Whether a number of arguments is accepted. -/
def accepts (a : Arity) (count : Nat) : Bool :=
  if a.variadic then a.fixed ≤ count else count == a.fixed

/-- The arity after the first argument is given. -/
def dropFirst (a : Arity) : Arity := { a with fixed := a.fixed - 1 }

end Arity

/-- The shape of what a function hands back. -/
inductive ResultShape where
  | nothing
  | single
  /-- A value and whether it was found. -/
  | flagged
  /-- Several values. -/
  | tuple (count : Nat)
deriving DecidableEq, Repr

/-- What a function accepts and hands back. -/
structure Signature where
  arity : Arity
  results : ResultShape
deriving DecidableEq, Repr

end TextTemplate
