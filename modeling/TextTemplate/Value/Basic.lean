import TextTemplate.Builtin.Name
import TextTemplate.Function.Scope
import TextTemplate.Value.Dict

/-!
# Values

The values that templates compute with, and the functions and objects among them. A value is
plain data: a function names its code, which the library or the host supplies, and an object
carries an identity.

Absence has two forms. `invalid` is no value at all, the outcome of a missing field; `nil` is a
value that says there is none.

Collections, and values that wrap another one, are held in cells. A value that is passed on stays
in its cell, so two values of one cell are one and the same, whatever they hold. A value that was
just made is in none until the render that made it takes it up.
-/

set_option autoImplicit false

namespace TextTemplate

/-- What a function runs. -/
inductive Code where
  | builtin (b : Builtin)
  /-- A function of the host, by number. -/
  | host (id : Nat)
deriving DecidableEq, Repr

/-- A record: fields in order, and methods that take the record as first argument. -/
structure Record (value function : Type) where
  typeName : String
  fields : List (String × value)
  methods : List (String × function)

/-- An object of the host with the capabilities that it has. -/
structure HostObject (value function : Type) where
  typeName : String
  /-- The printed form, if it is not the default. -/
  text : Option String
  /-- Emptiness, for tests of truth. -/
  empty : Option Bool
  /-- The items of an object that can be ranged over. -/
  items : Option (List value)
  /-- Attributes; when there are any, they answer every lookup. -/
  attributes : Option (List (String × value))
  fields : List (String × value)
  /-- Methods, already bound to the object. -/
  methods : List (String × function)

mutual

/-- A value of a template. -/
inductive Value where
  /-- No value at all. -/
  | invalid
  | nil
  | bool (b : Bool)
  | int (n : Int64)
  | uint (n : UInt64)
  | float (x : Binary64)
  | text (s : String)
  | list (items : List Value) (cell : Option Nat)
  | map (entries : Dict Value) (cell : Option Nat)
  | record (r : Record Value Function) (cell : Option Nat)
  /-- A present optional, which most operations look through. -/
  | some (v : Value) (cell : Option Nat)
  /-- A value with whether it was found. -/
  | presence (v : Value) (found : Bool) (cell : Option Nat)
  | func (f : FuncValue)
  | object (id : Nat) (o : Object)
  /-- A channel by number; its queue is among the shared resources. -/
  | chan (id : Nat)
  /-- A handle to the body of a callback block. -/
  | block (handle : Nat)

/-- A function that can be called. -/
inductive Function where
  | mk (signature : Signature) (stateful : Bool) (code : Code)
      /- The leading arguments that are already given. -/
      (bound : List Value)
      /- The context that the function was built for, if a factory built it. -/
      (context : Option Context)
      /- The object that the leading arguments were given for. -/
      (owner : Option Nat)

/-- A registered function: one ready to call, or a factory that builds it from the context of a
render. -/
inductive FuncValue where
  | direct (f : Function)
  | contextBound (factory : Nat)

/-- What a factory sees of a render. -/
inductive Context where
  | mk (funcs : Scope FuncValue) (data : Value) (payload : Option Value)

/-- An object. -/
inductive Object where
  | host (o : HostObject Value Function)
  /-- The state of one round of a loop. -/
  | loopState (value : Value) (index : Nat) (key : Value) (isFirst isLast : Bool)
      (source data : Value)
  /-- Data with functions that are visible while it is rendered. -/
  | dataFuncs (data : Value) (funcs : Scope FuncValue)
  /-- A scope of functions as data. -/
  | funcs (scope : Scope FuncValue)
  /-- What a template can see of its render. -/
  | renderInfo (template : String) (depth : Nat) (data : Value)

end

instance : Inhabited Value := ⟨.invalid⟩

namespace Function

/-- The signature of a function. -/
def signature : Function → Signature
  | mk s _ _ _ _ _ => s

/-- Whether a function acts on the running render. -/
def stateful : Function → Bool
  | mk _ b _ _ _ _ => b

/-- What a function runs. -/
def code : Function → Code
  | mk _ _ c _ _ _ => c

/-- The leading arguments that are already given. -/
def bound : Function → List Value
  | mk _ _ _ vs _ _ => vs

/-- The context that a function was built for. -/
def context : Function → Option Context
  | mk _ _ _ _ c _ => c

/-- The object that the leading arguments were given for. -/
def owner : Function → Option Nat
  | mk _ _ _ _ _ o => o

/-- The arguments that a function still takes. -/
def arity (f : Function) : Arity := f.signature.arity

/-- The built-in function as a value. -/
def ofBuiltin (b : Builtin) : Function :=
  mk ⟨b.arity, b.results⟩ b.isStateful (.builtin b) [] none none

/-- The function with its first argument given. -/
def bind (f : Function) (receiver : Value) : Function :=
  mk { f.signature with arity := f.signature.arity.dropFirst } f.stateful f.code
    (f.bound ++ [receiver]) f.context none

/-- The function as one of an object, where arguments were given to it for no other. -/
def ownedBy (f : Function) (object : Nat) : Function :=
  match f with
  | mk s b c (v :: vs) x none => mk s b c (v :: vs) x (some object)
  | f => f

/-- Whether two functions are one: they run the same code, with as many arguments given for the
same object. -/
def sameAs (f g : Function) : Bool :=
  f.code == g.code && f.bound.length == g.bound.length && f.owner == g.owner

end Function

namespace FuncValue

/-- Whether two registered functions are one. -/
def sameAs : FuncValue → FuncValue → Bool
  | direct f, direct g => f.sameAs g
  | contextBound a, contextBound b => a == b
  | _, _ => false

/-- The registered function as one of an object. -/
def ownedBy : FuncValue → Nat → FuncValue
  | direct f, object => direct (f.ownedBy object)
  | f, _ => f

end FuncValue

namespace Context

/-- The functions of a context. -/
def funcs : Context → Scope FuncValue
  | mk f _ _ => f

/-- The data of a context. -/
def data : Context → Value
  | mk _ d _ => d

/-- The payload that the host attached. -/
def payload : Context → Option Value
  | mk _ _ p => p

end Context

namespace Value

/-- The value of a truth. -/
def ofBool (b : Bool) : Value := .bool b

/-- The integer nearest to a natural number among those of 64 bits. -/
def ofNat (n : Nat) : Value := .int (Int64.ofInt (min n (Nat.pow 2 63 - 1)))

/-- The value of a key. -/
def ofKey : Key → Value
  | .bool b => .bool b
  | .int n => .int n
  | .uint n => .uint n
  | .float x => .float x
  | .text s => .text s

/-- Looks through optionals. -/
def indirect : Value → Value
  | .some v _ => v.indirect
  | v => v
termination_by structural v => v

/-- Whether a value is absent in either form. -/
def isNil : Value → Bool
  | .invalid | .nil => true
  | _ => false

/-- Whether there is no value at all. -/
def isInvalid : Value → Bool
  | .invalid => true
  | _ => false

/-- Whether a value is a text. -/
def isText : Value → Bool
  | .text _ => true
  | _ => false

/-- Whether a value is a number. -/
def isNumeric : Value → Bool
  | .int _ | .uint _ | .float _ => true
  | _ => false

/-- The text of a value that is one. -/
def asText? : Value → Option String
  | .text s => .some s
  | _ => .none

/-- The function of a value that is one. -/
def asFunc? : Value → Option FuncValue
  | .func f => .some f
  | _ => .none

/-- The key that a value is, through optionals. -/
def toKey? : Value → Option Key
  | .bool b => .some (.bool b)
  | .int n => .some (.int n)
  | .uint n => .some (.uint n)
  | .float x => .some (.float x)
  | .text s => .some (.text s)
  | .some v _ => v.toKey?
  | _ => .none
termination_by structural v => v

end Value

namespace Object

/-- The name of an object's type. -/
def typeName : Object → String
  | host o => o.typeName
  | loopState .. => "RangeElemState"
  | dataFuncs .. => "DataFuncs"
  | funcs _ => "FuncValues"
  | renderInfo .. => "State"

/-- The attributes of an object that answers by attributes only. -/
def attributes? : Object → Option (List (String × Value))
  | host o => o.attributes
  | _ => none

/-- The method of an object, already bound to it. -/
def method? (name : String) : Object → Option Function
  | host o => o.methods.lookup name
  | _ => none

/-- The field of an object. -/
def field? (name : String) : Object → Option Value
  | host o => o.fields.lookup name
  | loopState value index key isFirst isLast source data =>
    match name with
    | "Value" => some value
    | "Index" => some (.ofNat index)
    | "Key" => some key
    | "IsFirst" => some (.bool isFirst)
    | "IsLast" => some (.bool isLast)
    | "Self" => some source
    | "Data" => some data
    | _ => none
  | dataFuncs data _ => if name = "Data" then some data else none
  | funcs scope => (scope.get? name).map .func
  | renderInfo template depth data =>
    match name with
    | "Template" => some (.text template)
    | "Depth" => some (.ofNat depth)
    | "Data" => some data
    | _ => none

/-- Whether an object counts as empty, if it says so. -/
def empty? : Object → Option Bool
  | host o => o.empty
  | funcs scope => some scope.isEmpty
  | _ => none

/-- The object under a number. What it binds of its data is its own. -/
def numbered (id : Nat) : Object → Object
  | dataFuncs data scope => dataFuncs data (scope.map (·.ownedBy id))
  | o => o

/-- The items of an object that can be ranged over. -/
def items? : Object → Option (List Value)
  | host o => o.items
  | _ => none

end Object

namespace Value

/-- The name of a value's type. -/
def typeName : Value → String
  | .invalid => "invalid"
  | .nil => "nil"
  | .bool _ => "bool"
  | .int _ => "int"
  | .uint _ => "uint"
  | .float _ => "float64"
  | .text _ => "string"
  | .list .. => "list"
  | .map .. => "map"
  | .record r _ => r.typeName
  | .some v _ => "*" ++ v.typeName
  | .presence .. => "presence"
  | .func _ => "func"
  | .object _ o => o.typeName
  | .chan _ => "chan"
  | .block _ => "callback"
termination_by structural v => v

/-- The truth of a value; a handle to a block has none. -/
def truth? : Value → Option Bool
  | .invalid | .nil => .some false
  | .bool b => .some b
  | .int n => .some (n != 0)
  | .uint n => .some (n != 0)
  | .float x => .some (!x.isZero)
  | .text s => .some (!s.isEmpty)
  | .list items _ => .some (!items.isEmpty)
  | .map entries _ => .some (!entries.isEmpty)
  | .some v _ => v.truth?
  | .presence _ found _ => .some found
  | .object _ o => .some (!(o.empty?.getD false))
  | .record .. | .func _ | .chan _ => .some true
  | .block _ => .none
termination_by structural v => v

/-- The truth of a value, where none counts as false. -/
def isTruthy (v : Value) : Bool := v.truth?.getD false

/-- The length of texts in bytes, of lists, of maps, and of channels as given by their queues. -/
def length? (queued : Nat → Nat) (v : Value) : Option Nat :=
  match v.indirect with
  | .text s => .some s.utf8ByteSize
  | .list items _ => .some items.length
  | .map entries _ => .some entries.size
  | .chan id => .some (queued id)
  | _ => .none

/-- The zero of a value's kind. -/
def zeroLike : Value → Value
  | .bool _ => .bool false
  | .int _ => .int 0
  | .uint _ => .uint 0
  | .float _ => .float .zero
  | .text _ => .text ""
  | .list .. => .list [] .none
  | .map .. => .map .empty .none
  | _ => .nil

end Value

/-- What a call hands back. -/
inductive Results where
  | nothing
  | single (v : Value)
  | flagged (v : Value) (found : Bool)
  | tuple (vs : List Value)

/-- Results as one value: nothing is the empty text, a flagged value is a presence, and several
values are a list. -/
def Results.toValue : Results → Value
  | nothing => .text ""
  | single v => v
  | flagged v found => .presence v found none
  | tuple vs => .list vs none

namespace Record

variable {α β : Type}

/-- The field of a name. -/
def field? (r : Record α β) (name : String) : Option α := r.fields.lookup name

/-- The method of a name. -/
def method? (r : Record α β) (name : String) : Option β := r.methods.lookup name

/-- Sets a field, in its place where there is one of that name. -/
def setField (r : Record α β) (name : String) (v : α) : Record α β :=
  { r with fields := Layer.insert name v r.fields }

/-- Sets a method. -/
def setMethod (r : Record α β) (name : String) (f : β) : Record α β :=
  { r with methods := Layer.insert name f r.methods }

end Record

/-- Checks that an entry may be registered. -/
def checkEntry (name : String) (f : FuncValue) : Except ScopeError Unit :=
  if !isValidName name then .error (.badName name)
  else match f with
    | .direct g =>
      match g.signature.results with
      | .tuple _ => .error (.badReturnType name)
      | _ => .ok ()
    | .contextBound _ => .ok ()

namespace Scope

/-- Registers a function in the first layer. -/
def set (s : Scope FuncValue) (name : String) (f : FuncValue) :
    Except ScopeError (Scope FuncValue) :=
  (checkEntry name f).map fun _ => s.write name f

/-- Registers functions in order and stops at the first that may not be. The scope holds those
before it. -/
def extend (s : Scope FuncValue) : List (String × FuncValue) →
    Scope FuncValue × Option ScopeError
  | [] => (s, none)
  | (name, f) :: rest =>
    match s.set name f with
    | .error e => (s, some e)
    | .ok s' => s'.extend rest

end Scope

end TextTemplate
