import TextTemplate.Render.State

/-!
# Members

What a name means after the point: an attribute, a method, a field or the value under a key.
Where it means nothing, the options decide between a stand-in, no value and an error.
-/

set_option autoImplicit false

namespace TextTemplate

/-- What a name means on a value. -/
inductive Member where
  /-- A value, whatever arguments are given. -/
  | value (v : Value)
  /-- A value that takes no arguments. -/
  | field (v : Value)
  /-- A function that is called with the arguments. -/
  | function (f : FuncValue)
  | fault (cause : Cause)

namespace Member

/-- The member of an object that answers by its attributes. -/
def ofAttribute : Option Value → Member
  | some (.func f) => function f
  | some v => value v
  | none => value .invalid

/-- The method of a value, bound to it. -/
def method? (name : String) : Value → Option Function
  | .record r cell => (r.method? name).map fun f => f.bind (.record r cell)
  | .object _ o => o.method? name
  | _ => none

/-- The part of a pair of a value and whether it was found. -/
def ofPresence (v : Value) (found : Bool) : String → Option Value
  | "Val" => some v
  | "Ok" => some (.bool found)
  | _ => none

/-- A field, or what stands in for it. -/
def ofField (options : Options) (target : Value) (name : String) (optional : Bool) :
    Option Value → Member
  | some v => field v
  | none =>
    match options.standIn? target name optional with
    | some v => value v
    | none => fault (.noSuchField name target.typeName)

/-- The value under a key, or what a missing key gives. -/
def ofEntry (options : Options) (mode : MissingKey) (target : Value) (entries : Dict Value)
    (name : String) (optional : Bool) : Member :=
  match entries.get? (.text name) with
  | some v => value v
  | none =>
    match mode with
    | .absent => value ((options.standIn? target name optional).getD .invalid)
    | .zero => value ((entries.firstValue?.map Value.zeroLike).getD .nil)
    | .error => fault (.missingKey name)

/-- The member of a value without optionals around it and without attributes. -/
def ofTarget (options : Options) (mode : MissingKey) (target : Value) (name : String)
    (optional : Bool) : Member :=
  match method? name target with
  | some f => function (.direct f)
  | none =>
    match target with
    | .record r _ => ofField options target name optional (r.field? name)
    | .object _ o => ofField options target name optional (o.field? name)
    | .presence v found _ => ofField options target name optional (ofPresence v found name)
    | .map entries _ => ofEntry options mode target entries name optional
    | .nil => fault (.nilPointer name)
    | _ => fault (.noSuchField name target.typeName)

/-- What a name means on a value. Where there is no value, nothing comes of it, or an error. -/
def of (options : Options) (mode : MissingKey) (receiver : Value) (name : String)
    (optional : Bool) : Member :=
  match receiver with
  | .invalid => if mode = .error then fault (.nilData name) else value .invalid
  | _ =>
    match receiver.indirect with
    | .object id o =>
      match o.attributes? with
      | some attributes => ofAttribute (attributes.lookup name)
      | none => ofTarget options mode (.object id o) name optional
    | target => ofTarget options mode target name optional

end Member

end TextTemplate
