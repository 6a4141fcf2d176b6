import TextTemplate.Builtin.Argument
import TextTemplate.Text.Blank

/-!
# Trimming

Texts are trimmed of white space, or of one character, at both ends; lists are trimmed element by
element at any depth, and other values stay as they are.
-/

set_option autoImplicit false

namespace TextTemplate.Trim

/-- A text without the character `cut`, or without white space, at both ends. -/
def text (cut : Option Char) (s : String) : String :=
  match cut with
  | some c => Text.trimWhere (· == c) s
  | none => Text.trim s

/-- Whether trimming looks into a value. -/
def applies : Value → Bool
  | .text _ | .list .. => true
  | _ => false

mutual

/-- A value with its texts trimmed. -/
def value (cut : Option Char) : Value → Value
  | .text s => .text (text cut s)
  | .list items _ => .list (values cut items) none
  | .some v cell => if applies v.indirect then value cut v else .some v cell
  | v => v
termination_by structural v => v

/-- Values with their texts trimmed. -/
def values (cut : Option Char) : List Value → List Value
  | [] => []
  | v :: vs => value cut v :: values cut vs
termination_by structural vs => vs

end

/-- The first argument trimmed of the first character of the second, or of white space when
there is no second. -/
def trim (args : List Value) : Except EvalError Value :=
  let v := args.headD .invalid
  if args.length < 2 then .ok (value none v)
  else (Argument.text "trim" args 1).map fun cut => value (some (cut.toList.headD ' ')) v

end TextTemplate.Trim
