import TextTemplate.Value.Printer

/-!
# Listings

A listing of a value shows its structure: each part with the name of its kind, texts quoted.
-/

set_option autoImplicit false

namespace TextTemplate

/-- Items between brackets, with commas. -/
def commaList (opening closing : String) (items : List String) : String :=
  opening ++ ", ".intercalate items ++ closing

/-- Named fields between braces after a name, or the name alone when there are none. -/
def structListing (name : String) (fields : List String) : String :=
  if fields.isEmpty then name else commaList (name ++ " \x7b ") " \x7d" fields

/-- The listing of a shape of results. -/
def ResultShape.listing : ResultShape → String
  | .nothing => "Nothing"
  | .single => "Single"
  | .flagged => "Flagged"
  | .tuple n => "Tuple(" ++ toString n ++ ")"

/-- The listing of a signature. -/
def Signature.listing (s : Signature) : String :=
  structListing "Signature"
    ["arity: " ++ structListing "Arity"
      ["fixed: " ++ toString s.arity.fixed, "variadic: " ++ boolText s.arity.variadic],
     "results: " ++ s.results.listing]

/-- The listing of a function. -/
def FuncValue.listing : FuncValue → String
  | .direct f => structListing "Function"
      ["signature: " ++ f.signature.listing, "takes_state: " ++ boolText f.stateful]
  | .contextBound _ => "ContextBound"

mutual

/-- The listing of a value. -/
def Value.listing : Value → String
  | .invalid => "Invalid"
  | .nil => "None"
  | .bool b => "Bool(" ++ boolText b ++ ")"
  | .int n => "Int(" ++ toString n.toInt ++ ")"
  | .uint n => "Uint(" ++ toString n.toNat ++ ")"
  | .float x => "Float(" ++ String.ofList (FloatText.listed.chars x) ++ ")"
  | .text s => "Str(" ++ Text.quote s ++ ")"
  | .list items _ => commaList "[" "]" (Value.listings items)
  | .map ⟨entries⟩ _ => commaList "\x7b" "\x7d" (Value.entryListings entries)
  | .record ⟨name, fields, _⟩ _ => structListing name (Value.fieldListings fields)
  | .some v _ => "Some(" ++ v.listing ++ ")"
  | .presence v found _ => "Presence(" ++ v.listing ++ ", " ++ boolText found ++ ")"
  | .func f => f.listing
  | .object _ o => "Object(" ++ o.listing ++ ")"
  | .chan _ => "Chan"
  | .block n => "Block(" ++ toString n ++ ")"
termination_by structural v => v

/-- The listings of values. -/
def Value.listings : List Value → List String
  | [] => []
  | v :: vs => v.listing :: Value.listings vs
termination_by structural vs => vs

/-- The listings of the entries of a map. -/
def Value.entryListings : List (Key × Value) → List String
  | [] => []
  | (k, v) :: es => (k.listing ++ ": " ++ v.listing) :: Value.entryListings es
termination_by structural es => es

/-- The listings of named fields. -/
def Value.fieldListings : List (String × Value) → List String
  | [] => []
  | (name, v) :: fs => (name ++ ": " ++ v.listing) :: Value.fieldListings fs
termination_by structural fs => fs

/-- The listing of an object. -/
def Object.listing : Object → String
  | .host o => o.text.getD ("<" ++ o.typeName ++ ">")
  | .loopState value index key isFirst isLast source data =>
    structListing "RangeElemState"
      ["value: " ++ value.listing, "index: " ++ toString index, "key: " ++ key.listing,
       "is_first: " ++ boolText isFirst, "is_last: " ++ boolText isLast,
       "source: " ++ source.listing, "data: " ++ data.listing]
  | .dataFuncs data scope =>
    structListing "DataFuncs"
      ["data: " ++ data.listing,
       "funcs: " ++ commaList "\x7b" "\x7d" (scope.names.map Text.quote)]
  | .funcs scope => commaList "\x7b" "\x7d" (scope.names.map Text.quote)
  | .renderInfo template depth data =>
    structListing "StateInfo"
      ["template: " ++ Text.quote template, "depth: " ++ toString depth,
       "data: " ++ data.listing]
termination_by structural o => o

end

end TextTemplate
