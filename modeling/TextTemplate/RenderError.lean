import TextTemplate.Error
import TextTemplate.Options

/-!
# Errors of renders

Why a render failed, as its caller learns it.
-/

set_option autoImplicit false

namespace TextTemplate

/-- An error of evaluation with its place. -/
structure ExecError where
  template : String
  /-- The source, line and column of the node, empty where unknown. -/
  location : String
  context : String
  path : String
  cause : EvalError
deriving DecidableEq

namespace ExecError

/-- The error with its own site, or with the given template and path where it has none. -/
def ofCause (cause : EvalError) (template path : String) : ExecError :=
  match cause.site with
  | some site => ⟨site.template, site.location, site.context, site.path, cause⟩
  | none => ⟨template, "", "", path, cause⟩

/-- The wording of an error. -/
def message (e : ExecError) : String :=
  if e.location.isEmpty then "template: " ++ e.path ++ ": " ++ e.cause.message
  else "template: " ++ e.location ++ ": executing " ++ e.path ++ " at <" ++ e.context ++ ">: "
    ++ e.cause.message

end ExecError

/-- Why a render failed. -/
inductive RenderError where
  /-- The output took no more. -/
  | write (text : String)
  | exec (e : ExecError)
  /-- A function given for the render can not be registered. -/
  | func (e : ScopeError)
  | option (e : OptionError)
  | noTemplate (name owner : String)
deriving DecidableEq

/-- The wording of an error. -/
def RenderError.message : RenderError → String
  | write text => text
  | exec e => e.message
  | func e => e.message
  | option e => e.message
  | noTemplate name owner =>
    "template: no template " ++ Text.quote name ++ " associated with template " ++ Text.quote owner

end TextTemplate
