import TextTemplate.Syntax.Node
import TextTemplate.Text.Quoted

/-!
# Printed syntax

Nodes are printed much as a template spells them. Errors quote the printed form of the node that
they come from.
-/

set_option autoImplicit false

namespace TextTemplate

/-- The delimiter that opens an action. -/
def openMark : String := "\x7b\x7b"

/-- The delimiter that closes an action. -/
def closeMark : String := "\x7d\x7d"

/-- Text between the delimiters of an action. -/
def delimited (s : String) : String := openMark ++ s ++ closeMark

/-- The names of a path, each after a point. -/
def pathText : List String → String
  | [] => ""
  | name :: rest => "." ++ name ++ pathText rest

/-- What stands between the name and the value of a declaration. -/
def Assign.text (byState : Bool) : Assign → String
  | .declare => " := " ++ if byState then "&" else ""
  | .update => " = " ++ if byState then "&" else ""
  | .compound op => " " ++ op.text ++ "= "

/-- The declarations of a pipeline: the names, then the assignment of the last one. -/
def declarationsText (ds : List Declaration) : String :=
  match ds.getLast? with
  | none => ""
  | some last =>
    ", ".intercalate (ds.map (·.name)) ++ last.assign.text last.byState

mutual

/-- The printed form of an operand. A pipeline stands in parentheses among the operands of a
command (`grouped`) and bare elsewhere. -/
def Operand.print (grouped : Bool) : Operand → String
  | .mk _ form => form.print grouped
termination_by structural o => o

/-- The printed form of an operand by its form. -/
def OperandForm.print (grouped : Bool) : OperandForm → String
  | .field path optional => pathText path ++ if optional then "?" else ""
  | .chain base path => base.print true ++ pathText path
  | .identifier name => name
  | .variable name path => name ++ pathText path
  | .dot => "."
  | .nil => "nil"
  | .bool b => if b then "true" else "false"
  | .number n => n.text
  | .text s => Text.quote s
  | .pipe p => if grouped then "(" ++ p.print ++ ")" else p.print
  | .expr op lhs rhs => "(" ++ lhs.print ++ " " ++ op.text ++ " " ++ rhs.print ++ ")"
termination_by structural f => f

/-- The printed forms of the operands of a command. -/
def Operand.printAll : List Operand → String
  | [] => ""
  | [o] => o.print true
  | o :: rest => o.print true ++ " " ++ Operand.printAll rest
termination_by structural os => os

/-- The printed form of a command. -/
def Command.print : Command → String
  | .mk _ operands => Operand.printAll operands
termination_by structural c => c

/-- The printed forms of the commands of a pipeline. -/
def Command.printAll : List Command → String
  | [] => ""
  | [c] => c.print
  | c :: rest => c.print ++ " | " ++ Command.printAll rest
termination_by structural cs => cs

/-- The printed form of a pipeline. -/
def Pipe.print : Pipe → String
  | .mk _ declarations commands _ => declarationsText declarations ++ Command.printAll commands
termination_by structural p => p

end

/-- The word that opens a branching node. -/
def BranchKind.word : BranchKind → String
  | .cond => "if"
  | .scope => "with"
  | .loop => "range"

/-- The word that opens a node that hands its body to a function. -/
def BlockKind.word : BlockKind → String
  | .arg => "arg"
  | .callback => "callback"

mutual

/-- The printed form of a node. -/
def Node.print : Node → String
  | .text _ s => s
  | .action _ pipe => delimited pipe.print
  | .branch kind _ pipe body otherwise =>
    delimited (kind.word ++ " " ++ pipe.print) ++ Node.printAll body
      ++ Node.printList "else" otherwise ++ delimited "end"
  | .template _ name none => delimited ("template " ++ Text.quote name)
  | .template _ name (some pipe) =>
    delimited ("template " ++ Text.quote name ++ " " ++ pipe.print)
  | .list _ nodes => Node.printAll nodes
  | .wrap _ pipe body before after otherwise =>
    delimited ("wrap" ++ (match pipe with | some p => " " ++ p.print | none => ""))
      ++ Node.printAll body ++ Node.printList "begin" before ++ Node.printList "after" after
      ++ Node.printList "else" otherwise ++ delimited "end"
  | .block kind _ pipe body =>
    delimited (kind.word ++ " " ++ pipe.print) ++ Node.printAll body ++ delimited "end"
termination_by structural n => n

/-- The printed forms of nodes. -/
def Node.printAll : List Node → String
  | [] => ""
  | n :: rest => n.print ++ Node.printAll rest
termination_by structural ns => ns

/-- A list of nodes after the word that opens it, if there is one. -/
def Node.printList (word : String) : Option (List Node) → String
  | none => ""
  | some nodes => delimited word ++ Node.printAll nodes
termination_by structural ns => ns

end

end TextTemplate
