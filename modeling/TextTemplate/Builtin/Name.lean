import TextTemplate.Function.Signature

/-!
# The built-in functions

The functions that every template can call, with their names and signatures. Those that act on
the running render are found before any other function and cannot be shadowed.
-/

set_option autoImplicit false

namespace TextTemplate

/-- A built-in function. Two names of one behaviour are two functions. -/
inductive Builtin where
  | and | or | not | toBool | call | default | isNull | notNull | firstValid | hasMethod
  | nil | null | exit
  | index | slice | len | contains | array | append | map | dict | newPair | rangeCallback
  | html | js | urlQuery
  | print | toText | println | printf | toInt | toUint | pow | floor
  | eq | ne | lt | le | gt | ge
  | state | funcs | dataFuncs | set | get | templateExec | tplRender | tplYield | trim | join
deriving DecidableEq, Repr

namespace Builtin

/-- The name by which templates call a function. -/
def name : Builtin → String
  | and => "and" | or => "or" | not => "not" | toBool => "to_b" | call => "call"
  | default => "default" | isNull => "is_null" | notNull => "not_null"
  | firstValid => "first_valid" | hasMethod => "has_method" | nil => "nil" | null => "null"
  | exit => "exit" | index => "index" | slice => "slice" | len => "len"
  | contains => "contains" | array => "array" | append => "append" | map => "map"
  | dict => "dict" | newPair => "new_pair" | rangeCallback => "range_callback"
  | html => "html" | js => "js" | urlQuery => "urlquery" | print => "print"
  | toText => "to_s" | println => "println" | printf => "printf" | toInt => "to_i"
  | toUint => "to_u" | pow => "pow" | floor => "floor" | eq => "eq" | ne => "ne"
  | lt => "lt" | le => "le" | gt => "gt" | ge => "ge" | state => "_tpl_state"
  | funcs => "_tpl_funcs" | dataFuncs => "_tpl_data_funcs" | set => "set" | get => "get"
  | templateExec => "template_exec" | tplRender => "tpl_render" | tplYield => "tpl_yield"
  | trim => "trim" | join => "join"

/-- The numbers of arguments that a function accepts. -/
def arity : Builtin → Arity
  | nil | null | exit | state => .exactly 0
  | not | toBool | len | toInt | toUint => .exactly 1
  | hasMethod | newPair | pow | floor | ne | lt | le | gt | ge => .exactly 2
  | default | isNull | notNull | firstValid | array | map | dict | html | js | urlQuery
  | print | toText | println | funcs | get => .atLeast 0
  | and | or | call | index | slice | contains | append | printf | eq | dataFuncs
  | templateExec | tplRender | tplYield | trim | join => .atLeast 1
  | set => .atLeast 2
  | rangeCallback => .atLeast 3

/-- The shape of what a function hands back. -/
def results : Builtin → ResultShape
  | exit | rangeCallback | set | tplYield | join => .nothing
  | _ => .single

/-- Whether a function acts on the running render. -/
def isStateful : Builtin → Bool
  | call | rangeCallback | state | funcs | dataFuncs | set | get | templateExec | tplRender
  | tplYield | join => true
  | _ => false

/-- The functions at the root of every executor. -/
def rootLayer : List Builtin :=
  [and, or, not, toBool, call, default, isNull, notNull, firstValid, hasMethod, nil, null, exit,
    index, slice, len, contains, array, append, map, dict, newPair, rangeCallback, html, js,
    urlQuery, print, toText, println, printf, toInt, toUint, pow, floor, eq, ne, lt, le, gt, ge]

/-- The functions found before all others. -/
def renderLayer : List Builtin :=
  [state, funcs, dataFuncs, set, get, templateExec, tplRender, tplYield, trim, join]

end Builtin

end TextTemplate
