/-!
# Paths of templates

The templates from the entry of a render to the one that runs, and where each of them handed
over to the next.
-/

set_option autoImplicit false

namespace TextTemplate

/-- A template on a path. -/
structure Step where
  template : String
  /-- The name of the template's source. -/
  source : String
  /-- The line and column at which the template handed over. -/
  location : String
  /-- The printed form of the node there, cut. -/
  context : String
deriving DecidableEq, Repr

namespace Step

/-- The template with its source, where that has another name. -/
def title (s : Step) : String :=
  if s.source.isEmpty then s.template
  else if s.template.isEmpty || s.source == s.template then s.source
  else s.source ++ "[" ++ s.template ++ "]"

/-- The text of a step. -/
def text (s : Step) : String :=
  s.title ++ (if s.location.isEmpty then "" else ":" ++ s.location)
    ++ (if s.context.isEmpty then "" else " at <" ++ s.context ++ ">")

end Step

/-- The text of a path. -/
def pathOfSteps (steps : List Step) : String :=
  " » ".intercalate (steps.map fun s => "`" ++ s.text ++ "`")

end TextTemplate
