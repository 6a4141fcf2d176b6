import TextTemplate.Value.Basic

/-!
# Options

How an executor runs a template: what missing keys and fields give, which variables every
template sees, and how deep template calls may nest.
-/

set_option autoImplicit false

namespace TextTemplate

/-- What a key gives that a map does not have. -/
inductive MissingKey where
  /-- No value. -/
  | absent
  /-- The zero of the map's first value. -/
  | zero
  /-- An error. -/
  | error
deriving DecidableEq, Repr

/-- An option that is not known. -/
structure OptionError where
  option : String
deriving DecidableEq, Repr

/-- The wording of an error. -/
def OptionError.message (e : OptionError) : String := "unrecognized option: " ++ e.option

/-- Reads an option such as `missingkey=zero`. -/
def MissingKey.parse (option : String) : Except OptionError MissingKey :=
  match option with
  | "missingkey=invalid" | "missingkey=default" => .ok .absent
  | "missingkey=zero" => .ok .zero
  | "missingkey=error" => .ok .error
  | _ => .error ⟨option⟩

/-- Whether a failed render writes the text of its error to the output. -/
inductive WritePolicy where
  /-- As the parent says. -/
  | inherit
  | force
  | suppress
deriving DecidableEq, Repr

/-- The depth of template calls that no render exceeds unless it is told otherwise. -/
def defaultMaxDepth : Nat := 100000

/-- The options of an executor. -/
structure Options where
  /-- What missing keys give, where the template set's choice does not hold. -/
  missingKey : Option MissingKey
  /-- Whether optional fields are required like all others. -/
  requireFields : Bool
  /-- What stands in for a field of a name that a value does not have. -/
  missingField : Option (Value → String → Option Value)
  /-- Variables below those of every template. -/
  globals : List (String × Value)
  maxDepth : Option Nat
  /-- What the host hands to functions that are built for a render. -/
  payload : Option Value

namespace Options

/-- Nothing out of the ordinary. -/
def default : Options := ⟨none, false, none, [], none, none⟩

/-- The depth at which template calls stop. -/
def depthLimit (o : Options) : Nat := o.maxDepth.getD defaultMaxDepth

/-- What stands in for a field that a value does not have: the empty text where the field is
optional, and otherwise what the host says. -/
def standIn? (o : Options) (receiver : Value) (name : String) (optional : Bool) : Option Value :=
  if optional && !o.requireFields then some (.text "")
  else o.missingField.bind fun f => f receiver name

end Options

end TextTemplate
