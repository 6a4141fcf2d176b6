import TextTemplate.Text.Letter
import TextTemplate.Text.Quoted

/-!
# Scopes

A scope is a chain of layers of named entries. A name means its entry in the first layer that
has one, so each layer shadows those behind it, and registering writes to the first layer.
-/

set_option autoImplicit false

namespace TextTemplate

/-- Why an entry was not registered or not found. -/
inductive ScopeError where
  | badName (name : String)
  | badReturnType (name : String)
  | undefined (name : String)
deriving DecidableEq, Repr

/-- The wording of an error. -/
def ScopeError.message : ScopeError → String
  | .badName n => "function name " ++ Text.quote n ++ " is not a valid identifier"
  | .badReturnType n => "can't install method/function " ++ Text.quote n ++ ": bad return type"
  | .undefined n => "Function " ++ Text.quote n ++ " doesn't exists."

/-- Whether a name can be registered: a letter or underscore, then letters, numbers and
underscores. -/
def isValidName (name : String) : Bool :=
  match name.toList with
  | [] => false
  | c :: cs =>
    (c == '_' || Text.isLetter c) && cs.all fun c => c == '_' || Text.isLetter c || Text.isNumeral c

/-- Named entries, each name at most once. -/
abbrev Layer (α : Type) := List (String × α)

namespace Layer

variable {α : Type}

/-- The entry of a name. -/
def get? (layer : Layer α) (name : String) : Option α := List.lookup name layer

/-- Sets the entry of a name. -/
def insert (name : String) (a : α) : Layer α → Layer α
  | [] => [(name, a)]
  | e :: rest => if e.1 = name then (name, a) :: rest else e :: insert name a rest

/-- Sets the entries of another layer. -/
def insertAll (layer other : Layer α) : Layer α :=
  other.foldl (fun l e => insert e.1 e.2 l) layer

end Layer

/-- A chain of layers, the first one nearest. -/
structure Scope (α : Type) where
  layers : List (List (String × α))

/-- Puts a name into an ascending list of names without repetition. -/
def insertName (name : String) : List String → List String
  | [] => [name]
  | n :: rest =>
    if name < n then name :: n :: rest
    else if name = n then n :: rest
    else n :: insertName name rest

namespace Scope

variable {α : Type}

/-- The scope without layers. -/
def empty : Scope α := ⟨[]⟩

/-- The entry that a name means. -/
def get? (s : Scope α) (name : String) : Option α :=
  s.layers.findSome? fun layer => Layer.get? layer name

/-- Whether a name has an entry. -/
def contains (s : Scope α) (name : String) : Bool := (s.get? name).isSome

/-- Writes an entry to the first layer. -/
def write (s : Scope α) (name : String) (a : α) : Scope α :=
  match s.layers with
  | [] => ⟨[[(name, a)]]⟩
  | layer :: rest => ⟨Layer.insert name a layer :: rest⟩

/-- Adds the layers of another scope that hold something behind those of this one. -/
def append (s other : Scope α) : Scope α :=
  ⟨s.layers ++ other.layers.filter (!·.isEmpty)⟩

/-- A fresh first layer, then the layers of several scopes that hold something. -/
def merged (scopes : List (Scope α)) : Scope α :=
  ⟨[] :: scopes.flatMap fun s => s.layers.filter (!·.isEmpty)⟩

/-- The entries changed each by a function. -/
def map (f : α → α) (s : Scope α) : Scope α :=
  ⟨s.layers.map fun layer => layer.map fun e => (e.1, f e.2)⟩

/-- All layers as one, nearer layers winning. -/
def flatten (s : Scope α) : Layer α :=
  s.layers.reverse.foldl Layer.insertAll []

/-- The layer of the entries of some names. -/
def pick (s : Scope α) (acc : Layer α) : List String → Except ScopeError (Layer α)
  | [] => .ok acc
  | name :: rest =>
    match s.get? name with
    | none => .error (.undefined name)
    | some a => pick s (Layer.insert name a acc) rest

/-- The scope of one layer with the entries of some names, or with all entries when no name is
given. -/
def filter (s : Scope α) (names : List String) : Except ScopeError (Scope α) :=
  if names.isEmpty then .ok ⟨[s.flatten]⟩
  else (s.pick [] names).map fun layer => ⟨[layer]⟩

/-- The names with an entry, ascending. -/
def names (s : Scope α) : List String :=
  (s.layers.flatMap (·.map Prod.fst)).foldl (fun acc n => insertName n acc) []

/-- Whether no layer holds an entry. -/
def isEmpty (s : Scope α) : Bool := s.layers.all (·.isEmpty)

end Scope

end TextTemplate
