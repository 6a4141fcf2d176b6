import TextTemplate.Syntax.Literal
import TextTemplate.Syntax.Operator
import TextTemplate.Syntax.Span

/-!
# Syntax trees

A template is a list of nodes. A node is literal text, or an action around a pipeline: a chain
of commands, each a word with arguments, whose last result may be bound to variables.
-/

set_option autoImplicit false

namespace TextTemplate

/-- How a declaration stores a result. -/
inductive Assign where
  /-- A new binding. -/
  | declare
  /-- The nearest binding of the name is overwritten. -/
  | update
  /-- The nearest binding of the name is combined with the result. -/
  | compound (op : Operator)
deriving DecidableEq, Repr

/-- The declaration of a variable by a pipeline. -/
structure Declaration where
  span : Span
  /-- The name with its `$`. -/
  name : String
  assign : Assign
  /-- Whether a loop binds its state instead of the element. -/
  byState : Bool
deriving DecidableEq, Repr

mutual

/-- A word or an argument of a command. -/
inductive Operand where
  | mk (span : Span) (form : OperandForm)

/-- The forms of an operand. -/
inductive OperandForm where
  /-- A path into the dot; a missing name of an optional one is the empty text. -/
  | field (path : List String) (optional : Bool)
  /-- A path into the value of an operand. -/
  | chain (base : Operand) (path : List String)
  /-- The name of a function. -/
  | identifier (name : String)
  /-- A path into a variable. -/
  | variable (name : String) (path : List String)
  | dot
  | nil
  | bool (b : Bool)
  | number (n : Literal)
  | text (s : String)
  /-- A pipeline in parentheses. -/
  | pipe (p : Pipe)
  | expr (op : Operator) (lhs rhs : Command)

/-- A word with its arguments. -/
inductive Command where
  | mk (span : Span) (operands : List Operand)

/-- A chain of commands with declarations for its result. -/
inductive Pipe where
  | mk (span : Span) (declarations : List Declaration) (commands : List Command)
      (trimRight : Bool)

end

/-- The kinds of a branching node. -/
inductive BranchKind where
  | cond
  | scope
  | loop
deriving DecidableEq, Repr

/-- The kinds of a node that hands its body to a function. -/
inductive BlockKind where
  /-- The rendered body is the last argument. -/
  | arg
  /-- The function receives a handle by which it can run the body. -/
  | callback
deriving DecidableEq, Repr

/-- A node of a template. -/
inductive Node where
  | text (span : Span) (text : String)
  | action (span : Span) (pipe : Pipe)
  | branch (kind : BranchKind) (span : Span) (pipe : Pipe) (body : List Node)
      (otherwise : Option (List Node))
  /-- A call of another template. -/
  | template (span : Span) (name : String) (pipe : Option Pipe)
  | list (span : Span) (nodes : List Node)
  /-- A body with lists written before and after it where it has content, and one written
  instead where it has none. -/
  | wrap (span : Span) (pipe : Option Pipe) (body : List Node) (before after : Option (List Node))
      (otherwise : Option (List Node))
  | block (kind : BlockKind) (span : Span) (pipe : Pipe) (body : List Node)

namespace Operand

/-- The span of an operand. -/
def span : Operand → Span
  | .mk s _ => s

/-- The form of an operand. -/
def form : Operand → OperandForm
  | .mk _ f => f

end Operand

namespace Command

/-- The operands of a command: the word, then its arguments. -/
def operands : Command → List Operand
  | .mk _ os => os

end Command

namespace Pipe

/-- The span of a pipeline. -/
def span : Pipe → Span
  | .mk s _ _ _ => s

/-- The declarations of a pipeline. -/
def declarations : Pipe → List Declaration
  | .mk _ ds _ _ => ds

/-- The commands of a pipeline. -/
def commands : Pipe → List Command
  | .mk _ _ cs _ => cs

/-- Whether the action around a pipeline trims the text after it. -/
def trimRight : Pipe → Bool
  | .mk _ _ _ t => t

/-- Whether a pipeline asks a wrap to drop the leading white space of its body: it trims to the
right, or is the single word `strip`. -/
def asksStrip (p : Pipe) : Bool :=
  p.trimRight || match p.commands with
    | [.mk _ [.mk _ (.identifier name)]] => name == "strip"
    | _ => false

end Pipe

namespace Node

/-- The span of a node. -/
def span : Node → Span
  | .text s _ => s
  | .action s _ => s
  | .branch _ s _ _ _ => s
  | .template s _ _ => s
  | .list s _ => s
  | .wrap s _ _ _ _ _ => s
  | .block _ s _ _ => s

/-- Whether a wrap with the given pipeline drops the leading white space of its body. -/
def strips (pipe : Option Pipe) : Bool :=
  match pipe with
  | some p => p.asksStrip
  | none => false

end Node

end TextTemplate
