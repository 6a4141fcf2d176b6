import TextTemplate.Builtin.Argument
import TextTemplate.Program
import TextTemplate.Text.Blank

/-!
# Joined lists

The items of a list written with a separator between them, and if wanted another text before the
last one. Both come from options such as `sep:, ` and `and: or `; a later option overrides an
earlier one, and arguments that are no texts are no options.
-/

set_option autoImplicit false

namespace TextTemplate.Join

/-- What stands between items. -/
structure Style where
  separator : String
  /-- What stands before the last of several items, where that differs. -/
  beforeLast : Option String
deriving DecidableEq

/-- The style without options. -/
def Style.default : Style := ⟨", ", none⟩

/-- The text before the last item when the option for it is empty. -/
def defaultBeforeLast : String := " and "

/-- Splits a text at its first colon. -/
def splitColon (s : String) : Option (String × String) :=
  let cs := s.toList
  let key := cs.takeWhile (· ≠ ':')
  match cs.dropWhile (· ≠ ':') with
  | [] => none
  | _ :: value => some (String.ofList key, String.ofList value)

/-- A style changed by an option. -/
def Style.apply (style : Style) (opt : String) : Except EvalError Style :=
  match splitColon opt with
  | none => .ok { style with separator := opt }
  | some (key, value) =>
    let key := Text.trim key
    if key = "sep" then .ok { style with separator := value }
    else if key = "and" then
      .ok { style with beforeLast := some (if value.isEmpty then defaultBeforeLast else value) }
    else .error (.new ("invalid join option " ++ Text.quote key))

/-- A style changed by several options in order. -/
def Style.applyAll (style : Style) : List Value → Except EvalError Style
  | [] => .ok style
  | v :: rest =>
    match v.asText? with
    | none => style.applyAll rest
    | some opt => do (← style.apply opt).applyAll rest

/-- Items with a separator between them, as the texts to write. -/
def separated (separator : String) : List Value → List String
  | [] => []
  | [v] => [v.argText]
  | v :: rest => v.argText :: separator :: separated separator rest

/-- The texts to write for a list. -/
def texts (style : Style) (items : List Value) : List String :=
  match style.beforeLast, items.getLast? with
  | some word, some last =>
    if 1 < items.length then
      separated style.separator items.dropLast ++ [word, last.argText]
    else separated style.separator items
  | _, _ => separated style.separator items

/-- The items of the argument to join. -/
def items (v : Value) : Except EvalError (List Value) :=
  match v.indirect with
  | .list items _ => .ok items
  | .invalid | .nil => .ok []
  | other => .error (.new ("join of type " ++ other.typeName))

/-- Writes the first argument joined as the others say. -/
def program (args : List Value) : Program Results :=
  match items (args.headD .invalid) with
  | .error e => .fail e
  | .ok items =>
    match Style.default.applyAll args.tail with
    | .error e => .fail e
    | .ok style => .writeAll (.done .nothing) (texts style items)

end TextTemplate.Join
