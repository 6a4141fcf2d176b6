import TextTemplate.Value.Key

/-!
# Maps

A map is the list of its entries in ascending order of the keys. The operations keep the list
sorted (`Dict.Sorted`) and are total on lists that are not.
-/

set_option autoImplicit false

namespace TextTemplate

/-- A map from keys, as its entries in the order of the keys. -/
structure Dict (α : Type) where
  entries : List (Key × α)

namespace Dict

variable {α : Type}

/-- The map without entries. -/
def empty : Dict α := ⟨[]⟩

/-- Puts a value under a key into a sorted list; an equal key stays and its value is replaced. -/
def insertEntry (k : Key) (v : α) : List (Key × α) → List (Key × α)
  | [] => [(k, v)]
  | e :: rest =>
    match k.order e.1 with
    | .lt => (k, v) :: e :: rest
    | .eq => (e.1, v) :: rest
    | .gt => e :: insertEntry k v rest

/-- Puts a value under a key. -/
def insert (d : Dict α) (k : Key) (v : α) : Dict α := ⟨insertEntry k v d.entries⟩

/-- Puts entries in order, so that the last one of a key wins. -/
def insertAll (d : Dict α) (es : List (Key × α)) : Dict α :=
  es.foldl (fun d e => d.insert e.1 e.2) d

/-- The map of some entries. -/
def ofList (es : List (Key × α)) : Dict α := empty.insertAll es

/-- The value under a key. -/
def get? (d : Dict α) (k : Key) : Option α :=
  (d.entries.find? fun e => k.order e.1 == .eq).map Prod.snd

/-- Whether a key has a value. -/
def contains (d : Dict α) (k : Key) : Bool := (d.get? k).isSome

/-- The number of entries. -/
def size (d : Dict α) : Nat := d.entries.length

/-- Whether a map has no entry. -/
def isEmpty (d : Dict α) : Bool := d.entries.isEmpty

/-- The value under the least key. -/
def firstValue? (d : Dict α) : Option α := d.entries.head?.map Prod.snd

/-- The keys ascend strictly. -/
def Sorted (d : Dict α) : Prop := d.entries.Pairwise fun a b => a.1.order b.1 = .lt

end Dict

end TextTemplate
