import TextTemplate.Syntax.Position
import TextTemplate.Syntax.Printer
import TextTemplate.Text.Blank

/-!
# Template bodies

A tree is the body of one template with what a call needs: the names of its arguments and how
many of the caller's variables it sees, and with what errors need: the name and text of the
source it was read from.
-/

set_option autoImplicit false

namespace TextTemplate

/-- The body of a template. -/
structure Tree where
  name : String
  /-- The name of the source, which locations begin with. -/
  sourceName : String
  root : List Node
  /-- The names that a call binds its arguments to, after the dot. -/
  args : List String
  /-- How many of the caller's variables the body sees. -/
  inherited : Nat
  source : String

mutual

/-- Whether a node is white space: text of nothing else, or a list of such nodes. -/
def Node.isBlank : Node → Bool
  | .text _ s => Text.isBlankText s
  | .list _ nodes => Node.allBlank nodes
  | _ => false
termination_by structural n => n

/-- Whether all nodes are white space. -/
def Node.allBlank : List Node → Bool
  | [] => true
  | n :: rest => n.isBlank && Node.allBlank rest
termination_by structural ns => ns

end

/-- The number of characters of a node that an error quotes. -/
def contextLimit : Nat := 20

/-- A printed form cut to what an error quotes of it. -/
def truncateContext (s : String) : String :=
  let cs := s.toList
  if contextLimit < cs.length then String.ofList (cs.take contextLimit) ++ "..." else s

namespace Tree

/-- A body without a source. -/
def ofNodes (name : String) (root : List Node) : Tree := ⟨name, name, root, [], 0, ""⟩

/-- Whether a body is white space. -/
def isEmpty (t : Tree) : Bool := Node.allBlank t.root

/-- The position in the source at which a span begins. -/
def position (t : Tree) (span : Span) : Position := .locate t.source span.start

/-- The location of a span: the name of the source, the line and the column. -/
def location (t : Tree) (span : Span) : String := t.sourceName ++ ":" ++ (t.position span).text

end Tree

end TextTemplate
