import TextTemplate.Value.Basic

/-!
# Printed values

The text that a value has in the output. Lists are written `[a b]`, maps `map[k:v]` with their
keys in order and records as their fields in braces. Absence reads differently at the top, where
it is the outcome of an action, and inside a value or among arguments.
-/

set_option autoImplicit false

namespace TextTemplate

/-- The text of a truth. -/
def boolText (b : Bool) : String := if b then "true" else "false"

/-- How an absent value reads at the top. -/
def absentText : String := "<no value>"

/-- How an absent value reads among arguments and inside of values. -/
def nilText : String := "<nil>"

mutual

/-- The text of a value; `absent` is the text of no value at all. -/
def Value.textWith (absent : String) : Value → String
  | .invalid => absent
  | .nil => nilText
  | .bool b => boolText b
  | .int n => toString n.toInt
  | .uint n => toString n.toNat
  | .float x => x.print
  | .text s => s
  | .list items _ => "[" ++ " ".intercalate (Value.argTexts items) ++ "]"
  | .map ⟨entries⟩ _ => "map[" ++ " ".intercalate (Value.entryTexts entries) ++ "]"
  | .record ⟨_, fields, _⟩ _ => "\x7b" ++ " ".intercalate (Value.fieldTexts fields) ++ "\x7d"
  | .some v _ => v.textWith nilText
  | .presence v found _ => "\x7b" ++ v.textWith nilText ++ " " ++ boolText found ++ "\x7d"
  | .func _ => "<func>"
  | .object _ o => o.print
  | .chan _ => "<chan>"
  | .block _ => "<callback>"
termination_by structural v => v

/-- The texts of values inside of another. -/
def Value.argTexts : List Value → List String
  | [] => []
  | v :: vs => v.textWith nilText :: Value.argTexts vs
termination_by structural vs => vs

/-- The texts of the entries of a map. -/
def Value.entryTexts : List (Key × Value) → List String
  | [] => []
  | (k, v) :: es => (k.print ++ ":" ++ v.textWith nilText) :: Value.entryTexts es
termination_by structural es => es

/-- The texts of the fields of a record. -/
def Value.fieldTexts : List (String × Value) → List String
  | [] => []
  | (_, v) :: fs => v.textWith nilText :: Value.fieldTexts fs
termination_by structural fs => fs

/-- The text of an object. -/
def Object.print : Object → String
  | .host o => o.text.getD ("<" ++ o.typeName ++ ">")
  | .loopState value index key isFirst isLast _ _ =>
    "\x7b" ++ value.textWith nilText ++ " " ++ toString index ++ " " ++ key.textWith nilText ++ " "
      ++ boolText isLast ++ " " ++ boolText isFirst ++ "\x7d"
  | .funcs scope => "[" ++ " ".intercalate scope.names ++ "]"
  | .dataFuncs .. => "<DataFuncs>"
  | .renderInfo .. => "<State>"
termination_by structural o => o

end

namespace Value

/-- The text of a value as the outcome of an action. -/
def print (v : Value) : String := v.textWith absentText

/-- The text of a value as an argument. -/
def argText (v : Value) : String := v.textWith nilText

/-- The texts of arguments with a space between two that are no texts. -/
def spacedTexts : List Value → List String
  | [] => []
  | [v] => [v.argText]
  | v :: w :: rest =>
    (v.argText ++ if v.isText || w.isText then "" else " ") :: spacedTexts (w :: rest)

/-- Arguments printed one after the other. -/
def printAll (vs : List Value) : String := String.join (spacedTexts vs)

/-- Arguments printed with spaces between them, as a line. -/
def printLine (vs : List Value) : String := " ".intercalate (argTexts vs) ++ "\n"

end Value

end TextTemplate
