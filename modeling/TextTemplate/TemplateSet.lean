import TextTemplate.Options
import TextTemplate.Syntax.Tree

/-!
# Template sets

A set holds templates by name. A name may have functions before it has a body, and keeps them
when its body is replaced; a body that is white space replaces none that is not.
-/

set_option autoImplicit false

namespace TextTemplate

/-- A named template. -/
structure Template where
  name : String
  /-- The body, unless only the name is known. -/
  tree : Option Tree
  /-- Functions that hold while the template runs. -/
  funcs : Scope FuncValue

namespace Template

/-- A name without a body. -/
def declared (name : String) : Template := ⟨name, none, .empty⟩

/-- Whether a template has a body. -/
def isDefined (t : Template) : Bool := t.tree.isSome

/-- The names that a call binds its arguments to. -/
def args (t : Template) : List String :=
  match t.tree with
  | some tree => tree.args
  | none => []

/-- The name of the source that a template was read from, where it is known, and else its own. -/
def sourceName (t : Template) : String :=
  match t.tree with
  | some tree => if tree.sourceName.isEmpty then t.name else tree.sourceName
  | none => t.name

/-- The name of a template after that of its source, where that is another. -/
def fullName (t : Template) : String :=
  if t.sourceName = t.name then t.name else t.sourceName ++ " [" ++ t.name ++ "]"

/-- Whether a body may take the place of the one that a template has. -/
def yieldsTo (t : Template) (tree : Tree) : Bool :=
  match t.tree with
  | some old => old.isEmpty || !tree.isEmpty
  | none => true

end Template

/-- A set of templates. -/
structure TemplateSet where
  name : String
  templates : Layer Template
  missingKey : MissingKey

namespace TemplateSet

/-- The set without templates. -/
def empty (name : String) : TemplateSet := ⟨name, [], .absent⟩

/-- The template of a name. -/
def lookup (s : TemplateSet) (name : String) : Option Template := Layer.get? s.templates name

/-- The template of a name, or the bare name. -/
def entry (s : TemplateSet) (name : String) : Template := (s.lookup name).getD (.declared name)

/-- Puts a template under its name. -/
def put (s : TemplateSet) (t : Template) : TemplateSet :=
  { s with templates := Layer.insert t.name t s.templates }

/-- Defines the template of a body, and gives the template that then has its name. -/
def add (s : TemplateSet) (tree : Tree) : Template × TemplateSet :=
  let old := s.entry tree.name
  let t := if old.yieldsTo tree then { old with tree := some tree } else old
  (t, s.put t)

/-- Gives functions to a template. Those before one that may not be registered are kept. -/
def addFuncs (s : TemplateSet) (name : String) (funcs : List (String × FuncValue)) :
    TemplateSet × Option ScopeError :=
  let old := s.entry name
  let (scope, fault) := old.funcs.extend funcs
  (s.put { old with funcs := scope }, fault)

/-- Sets the option that a text spells. -/
def setOption (s : TemplateSet) (option : String) : Except OptionError TemplateSet :=
  (MissingKey.parse option).map fun mode => { s with missingKey := mode }

/-- The names of the templates, ascending. -/
def names (s : TemplateSet) : List String :=
  s.templates.foldl (fun acc e => insertName e.1 acc) []

/-- The templates in the order of their names. -/
def sorted (s : TemplateSet) : List Template := s.names.filterMap s.lookup

/-- The quoted names of the templates that have a body, as the end of a message. -/
def definedText (s : TemplateSet) : String :=
  match (s.sorted.filter Template.isDefined).map fun t => Text.quote t.name with
  | [] => ""
  | names => "; defined templates are: " ++ ", ".intercalate names

end TemplateSet

end TextTemplate
