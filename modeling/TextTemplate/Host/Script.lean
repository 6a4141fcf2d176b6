import TextTemplate.Program.Call
import TextTemplate.Text.Utf8

/-!
# Scripted hosts

A host whose functions are given as data. A script says what a function does: it gives a value,
fails, counts its calls in the host's own state, or acts on the running render. A recipe says
what a factory builds. Functions and factories are numbered as they are added.
-/

set_option autoImplicit false

namespace TextTemplate

/-- What a function of a scripted host does. -/
inductive Script where
  /-- Gives a value. -/
  | const (v : Value)
  /-- Gives its arguments as a list. -/
  | list
  /-- Gives its first argument. -/
  | first
  /-- Gives the text of its first argument with the letters of ASCII in upper case. -/
  | upper
  /-- Joins the texts of its arguments. -/
  | cat
  | raise (e : EvalError)
  /-- Panics, with or without a message. -/
  | panic (message : Option String)
  /-- Gives its first argument as found or not. -/
  | flag (found : Bool)
  /-- Gives its arguments as several values. -/
  | tuple (count : Nat)
  /-- Counts the call. -/
  | unit
  /-- Counts the call and gives the count. -/
  | count
  /-- Gives the data of the context that it was built for. -/
  | contextData
  /-- Gives the payload of the context that it was built for. -/
  | contextPayload
  /-- Calls a function by its first argument in the context that it was built for. -/
  | contextCall
  /-- Writes the texts of its arguments. -/
  | emit
  /-- Gives a variable of the render. -/
  | binding
  /-- Gives the name of the template, the depth and the data. -/
  | info
  /-- Tells whether a name means a function. -/
  | hasFunc
  /-- Gives the names of functions of the executor. -/
  | filter
  /-- Calls its first argument. -/
  | callValue
  /-- Runs a block a number of times. -/
  | repeated
  /-- Gives the output of a block in brackets. -/
  | capture
  /-- Gives the output of a block, or the text of its error. -/
  | swallow
  /-- Keeps the handle of a block in the local data. -/
  | keep
  /-- Runs the block whose handle was kept. -/
  | invokeKept
  /-- Calls a function by name in the context of the render. -/
  | callNamed
  /-- Gives the data, the payload and the names of the functions of the context of the render. -/
  | contextInfo
  /-- Gives the output of a template. -/
  | render
  /-- Renders a template into the output. -/
  | yield
  /-- Gives the output of a template, or a description of its error. -/
  | attempt
  /-- Gives the size of the local data, whether it is empty, and whether it has a key. -/
  | localData
  /-- Gives data with functions of the executor. -/
  | dataFuncs

namespace Script

/-- Whether a script acts on the running render. -/
def isStateful : Script → Bool
  | emit | binding | info | hasFunc | filter | callValue | repeated | capture | swallow | keep
  | invokeKept | callNamed | contextInfo | render | yield | attempt | localData | dataFuncs => true
  | _ => false

/-- The numbers of arguments that a script accepts unless its function says otherwise. -/
def arity : Script → Arity
  | const _ | info | contextInfo | contextData | contextPayload => .exactly 0
  | first | upper | flag _ | binding | hasFunc | localData => .exactly 1
  | callValue | callNamed | render | yield | attempt | dataFuncs => .atLeast 1
  | capture | swallow | keep => .atLeast 2
  | repeated => .atLeast 3
  | _ => .atLeast 0

/-- The shape of what a script hands back. -/
def results : Script → ResultShape
  | flag _ => .flagged
  | tuple n => .tuple n
  | unit | emit | yield => .nothing
  | _ => .single

/-- Adds one to the host's count of calls, and goes on with it. -/
def bump {α : Type} (next : Value → Plain α) : Plain α :=
  .host (fun v => match v with | .int n => .int (n + 1) | v => v) next

/-- Ends with a value. -/
def give (v : Value) : Plain Results := .done (.single v)

/-- The payload of a context as a value. -/
def payloadOf (c : Context) : Value := c.payload.getD .nil

/-- What a script does without a running render. -/
def plain (script : Script) (context : Option Context) (args : List Value) : Plain Results :=
  let head := args.headD .invalid
  match script with
  | const v => give v
  | list => give (.list args none)
  | first => give head
  | upper => give (.text (head.print.map Char.toUpper))
  | cat => give (.text ("+".intercalate (args.map Value.print)))
  | raise e => .fail e
  | panic message => .panic message
  | flag found => .done (.flagged head found)
  | tuple _ => .done (.tuple args)
  | unit => bump fun _ => .done .nothing
  | count => bump give
  | contextData => give ((context.map Context.data).getD .invalid)
  | contextPayload => give ((context.map payloadOf).getD .nil)
  | contextCall =>
    match context, args with
    | some c, .text name :: rest => .callNamed c name rest fun r => .ofExcept (r.map .single)
    | _, _ => .fail (.new "host: string expected")
  | _ => .fail .needsRender

/-- Goes on with the text at a place of the arguments. -/
def withText (args : List Value) (i : Nat) (next : String → Program Results) : Program Results :=
  match args[i]? with
  | some (.text s) => next s
  | _ => .fail (.new "host: string expected")

/-- Goes on with arguments that are texts. -/
def withTexts (next : List String → Program Results) : List Value → Program Results
  | [] => next []
  | .text s :: rest => withTexts (fun ss => next (s :: ss)) rest
  | _ :: _ => .fail (.new "host: string expected")

/-- Goes on with the handle that a value is. -/
def withHandle (v : Option Value) (next : Nat → Program Results) : Program Results :=
  match v with
  | some (.block h) => next h
  | _ => .fail (.new "host: handler expected")

/-- Ends with a value. -/
def answer (v : Value) : Program Results := .done (.single v)

/-- Goes on with what is not an error of a scope. -/
def orScopeError {α : Type} (x : Except ScopeError α) (next : α → Program Results) :
    Program Results :=
  match x with
  | .ok a => next a
  | .error e => .fail (.new e.message)

/-- Runs a block for the last `left` numbers below `total`. -/
def rounds (handle : Nat) (extra : List Value) (total : Nat) : Nat → Program Results
  | 0 => answer .nil
  | left + 1 =>
    .runBlock handle (.ofNat (total - (left + 1))) extra false
      (.orFail fun _ => rounds handle extra total left)

/-- Goes on with the output of a block. -/
def captured (args : List Value) (next : Except EvalError String → Program Results) :
    Program Results :=
  withHandle args[1]? fun h =>
    .runBlock h (args.headD .invalid) (args.drop 2) true fun r => next (r.map Text.decodeText)

/-- A description of an error. -/
def describe (e : EvalError) : String :=
  "<" ++ e.message ++ " fatal=" ++ boolText e.fatal ++ " frames=" ++ toString e.frames.length
    ++ ">"

/-- The number of rounds that a value asks for. -/
def roundCount : Option Value → Nat
  | some (.int n) => n.toInt.toNat
  | _ => 0

/-- What a script does in a running render. -/
def stateful (script : Script) (context : Option Context) (args : List Value) :
    Program Results :=
  let head := args.headD .invalid
  match script with
  | emit => .writeAll (.done .nothing) (args.map Value.print)
  | binding => withText args 0 fun name =>
      .view fun v => answer ((v.binding? name).getD .invalid)
  | info => .view fun v => answer (.list [.text v.templateName, .ofNat v.depth, v.data] none)
  | hasFunc => withText args 0 fun name =>
      .view fun v => answer (.bool (v.findFunc? name).isSome)
  | filter => withTexts (fun names => .view fun v =>
      orScopeError (v.filterFuncs names) fun scope =>
        answer (.list (scope.names.map .text) none)) args
  | callValue => .callValue head args.tail (.orFail answer)
  | repeated => withHandle args[1]? fun h =>
      rounds h (args.drop 3) (roundCount args[2]?) (roundCount args[2]?)
  | capture => captured args (.orFail fun s => answer (.text ("[" ++ s ++ "]")))
  | swallow => captured args fun
      | .ok s => answer (.text s)
      | .error e => answer (.text ("<" ++ e.message ++ ">"))
  | keep => .updateStore (fun d => d.insert (.text "h") (args.getD 1 .invalid)) (answer .nil)
  | invokeKept => .view fun v =>
      withHandle (v.store.get? (.text "h")) fun h =>
        .runBlock h .nil args false (.orFail fun _ => answer .nil)
  | callNamed => withText args 0 fun name =>
      .view fun v => .run (.callNamed v.context name args.tail .ofExcept) (.orFail answer)
  | contextInfo => .view fun v =>
      answer (.list [v.context.data, payloadOf v.context,
        .list (v.context.funcs.names.map .text) none] none)
  | render => withText args 0 fun name =>
      .render name args[1]? (.orFail fun s => answer (.text s))
  | yield => withText args 0 fun name => .yield name args[1]? (.orFail fun _ => .done .nothing)
  | attempt => withText args 0 fun name =>
      .render name args[1]? fun
        | .ok s => answer (.text s)
        | .error e => answer (.text (describe e))
  | localData =>
    match head.toKey? with
    | none => .fail (.new "host: key expected")
    | some k => .view fun v =>
        answer (.list [.ofNat v.store.size, .bool v.store.isEmpty, .bool (v.store.contains k)] none)
  | dataFuncs => withTexts (fun names => .view fun v =>
      orScopeError (v.filterFuncs [] >>= fun scope => scope.filter names) fun scope =>
        .newObject (.dataFuncs head scope) answer) args.tail
  | script => .finish (script.plain context args)

end Script

/-- What a factory of a scripted host builds. -/
inductive Recipe where
  /-- Counts the building, and builds a function that gives the count. -/
  | count
  /-- A function that gives the data of the context. -/
  | data
  /-- A function that gives the payload of the context. -/
  | payload
  /-- A function that calls another one by name in the context. -/
  | call (name : String)
  | build (f : Function)
  | fail (e : EvalError)

/-- The scripts and recipes of a host, by number. -/
structure ScriptedHost where
  scripts : Array Script
  recipes : Array Recipe

namespace ScriptedHost

/-- The scripts that recipes use, which come first. -/
def recipeScripts : Array Script :=
  #[.first, .contextData, .contextPayload, .contextCall]

/-- A host without functions. -/
def empty : ScriptedHost := ⟨recipeScripts, #[]⟩

/-- A function that runs the script of a number, with some arguments given. -/
def function (script : Script) (id : Nat) (arity : Arity) (bound : List Value)
    (context : Option Context) : Function :=
  .mk ⟨arity, script.results⟩ script.isStateful (.host id) bound context none

/-- Adds a function. -/
def addFunction (h : ScriptedHost) (script : Script) (arity : Arity) : Function × ScriptedHost :=
  (function script h.scripts.size arity [] none, { h with scripts := h.scripts.push script })

/-- Adds a factory. -/
def addFactory (h : ScriptedHost) (recipe : Recipe) : FuncValue × ScriptedHost :=
  (.contextBound h.recipes.size, { h with recipes := h.recipes.push recipe })

/-- What a factory builds for a context. -/
def build (recipe : Recipe) (c : Context) : Plain Function :=
  match recipe with
  | .count => Script.bump fun v => .done (function .first 0 (.exactly 0) [v] none)
  | .data => .done (function .contextData 1 (.exactly 0) [] (some c))
  | .payload => .done (function .contextPayload 2 (.exactly 0) [] (some c))
  | .call name => .done (function .contextCall 3 (.atLeast 0) [.text name] (some c))
  | .build f => .done f
  | .fail e => .fail e

/-- The host of the scripts and recipes. Numbers that were not given out do nothing. -/
def host (h : ScriptedHost) : Host where
  plain := fun id context args => (h.scripts.getD id .unit).plain context args
  stateful := fun id context args => (h.scripts.getD id .unit).stateful context args
  build := fun id c => build (h.recipes.getD id (.fail (.new ""))) c

/-- The number of calls that were counted. -/
def calls (r : Resources) : Int :=
  match r.hostState with
  | .int n => n.toInt
  | _ => 0

/-- The resources at the start, with no call counted. -/
def resources : Resources := .initial (.int 0)

end ScriptedHost

end TextTemplate
