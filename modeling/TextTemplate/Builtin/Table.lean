import TextTemplate.Builtin.Collection
import TextTemplate.Builtin.Compare
import TextTemplate.Builtin.Convert
import TextTemplate.Builtin.Format
import TextTemplate.Builtin.Join
import TextTemplate.Builtin.Logic
import TextTemplate.Builtin.Loop
import TextTemplate.Builtin.Render
import TextTemplate.Builtin.Trim
import TextTemplate.Text.Escape

/-!
# The built-in functions as programs

What each built-in function does, and the two scopes that hold them.
-/

set_option autoImplicit false

namespace TextTemplate

/-- The error of a function that needs a running template where there is none. -/
def EvalError.needsRender : EvalError :=
  .new "function needs a running template and can't be called here"

namespace Builtin

/-- The result of a function that looks at nothing but its arguments and takes no part of them. -/
def pureResult (b : Builtin) (args : List Value) : Except EvalError Value :=
  match b with
  | and => .ok (Logic.and args)
  | or => .ok (Logic.or args)
  | not => .ok (.bool !(args.headD .invalid).isTruthy)
  | toBool => .ok (.bool (args.headD .invalid).isTruthy)
  | default => .ok (Logic.default args)
  | isNull => .ok (.bool (Logic.allNil args))
  | notNull => .ok (.bool !Logic.allNil args)
  | firstValid => .ok (Logic.firstValid args)
  | hasMethod => Logic.hasMethod args
  | nil | null => .ok .nil
  | exit => .error .exit
  | index => Collection.index args
  | contains => Collection.contains args
  | array => .ok (.list args none)
  | append => Collection.append args
  | map => Collection.map args
  | dict => Collection.dict args
  | newPair => .ok (Collection.newPair args)
  | html => .ok (.text (Text.escapeHtml (Argument.printed args)))
  | js => .ok (.text (Text.escapeScript (Argument.printed args)))
  | urlQuery => .ok (.text (Text.escapeQuery (Argument.printed args)))
  | print | toText => .ok (.text (Value.printAll args))
  | println => .ok (.text (Value.printLine args))
  | printf => do
    let format ← Argument.text "printf" args 0
    return .text (Format.format format args.tail)
  | toInt => Convert.toInt (args.headD .invalid)
  | toUint => Convert.toUint (args.headD .invalid)
  | pow => Convert.operator .pow args
  | floor => Convert.operator .floorDiv args
  | eq => Compare.eq args
  | ne => Compare.ne args
  | lt => Compare.ordered Ordering.isLT args
  | le => Compare.ordered Ordering.isLE args
  | gt => Compare.ordered Ordering.isGT args
  | ge => Compare.ordered Ordering.isGE args
  | trim => Trim.trim args
  | slice | len | call | rangeCallback | state | funcs | dataFuncs | set | get | templateExec
  | tplRender | tplYield | join => .error .needsRender

/-- The items waiting in the channel that a value is, if it is one. -/
def queuedOf (v : Value) (next : (Nat → Nat) → Plain Results) : Plain Results :=
  match v.indirect with
  | .chan c => .queued c fun n => next fun _ => n
  | _ => next fun _ => 0

/-- Whether arguments ask the formatting function for more than it can do. -/
def overtaxesFormat (args : List Value) : Bool :=
  match Argument.text "printf" args 0 with
  | .ok format => Format.isOutOfRange format args.tail
  | .error _ => false

/-- The program of a function that needs no running render. -/
def plain (b : Builtin) (args : List Value) : Plain Results :=
  match b with
  | printf =>
    if overtaxesFormat args then .panic (some "Formatting argument out of range")
    else .ofExcept ((b.pureResult args).map .single)
  | slice => .ofOutcome ((Collection.slice args).map .single)
  | len =>
    let v := args.headD .invalid
    queuedOf v fun queued =>
      .ofExcept ((Collection.lengthOf queued v).map .single)
  | _ => .ofExcept ((b.pureResult args).map .single)

/-- The formatting function writes the text of its format, or panics. -/
theorem plain_printf (format : String) (args : List Value) :
    printf.plain (.text format :: args) =
      if Format.isOutOfRange format args then .panic (some "Formatting argument out of range")
      else .done (.single (.text (Format.format format args))) := rfl

/-- The program of a function that acts on the running render. -/
def stateful (b : Builtin) (args : List Value) : Program Results :=
  match b with
  | call => RenderFunction.call args
  | rangeCallback => Loop.program args
  | state => RenderFunction.state
  | funcs => RenderFunction.funcs args
  | dataFuncs => RenderFunction.dataFuncs args
  | set => RenderFunction.set args
  | get => RenderFunction.get args
  | templateExec | tplRender => RenderFunction.templateExec args
  | tplYield => RenderFunction.tplYield args
  | join => Join.program args
  | _ => .finish (b.plain args)

/-- The scope of some built-in functions. -/
def scopeOf (bs : List Builtin) : Scope FuncValue :=
  ⟨[bs.map fun b => (b.name, .direct (.ofBuiltin b))]⟩

/-- The functions at the root of every executor. -/
def rootScope : Scope FuncValue := scopeOf rootLayer

/-- The functions that are found before all others. -/
def renderScope : Scope FuncValue := scopeOf renderLayer

end Builtin

end TextTemplate
