import TextFeatures.Json.Number

namespace TextFeatures.Json

def text? : Json → Option String
  | string text => text
  | _ => none

def bool? : Json → Option Bool
  | bool value => some value
  | _ => none

def number? : Json → Option Number
  | number value => value.number?
  | _ => none

-- A natural number has neither a fraction nor an exponent, not even an empty one.
def natural? (value : Json) : Option Nat :=
  match value.number? with
  | some (.natural n) => some n
  | _ => none

def real? (value : Json) : Option Float :=
  match value.number? with
  | some (.natural n) => some (Float.ofNat n)
  | some (.real x) => some x
  | none => none

def list? (item? : Json → Option α) : Json → Option (List α)
  | array items => items.mapM item?
  | _ => none

def optional? (value? : Json → Option α) : Json → Option (Option α)
  | null => some none
  | value => (value? value).map some

-- The name of a choice without contents, written alone or as the key of a null.
def choice? : Json → Option String
  | string text => text
  | object [(key, null)] => key
  | _ => none

def tagged? : Json → Option (String × Json)
  | object [(some key, value)] => some (key, value)
  | _ => none

-- Other fields are passed over, but a named field may not come twice.
def keyed? (names : List String) (members : List (Option String × Json)) :
    Option (List (Option Json)) :=
  if members.all fun member => member.1.isSome then
    names.mapM fun name =>
      match members.filter fun member => member.1 = some name with
      | [] => some none
      | [member] => some (some member.2)
      | _ => none
  else none

-- The values of the named fields of a record: an object, or an array of all fields in order.
def fields? (names : List String) : Json → Option (List (Option Json))
  | object members => keyed? names members
  | array items => if items.length = names.length then some (items.map some) else none
  | _ => none

-- As `fields?`, but an array may leave out fields at its end.
def leadingFields? (names : List String) : Json → Option (List (Option Json))
  | object members => keyed? names members
  | array items =>
    if items.length ≤ names.length then
      some (items.map some ++ List.replicate (names.length - items.length) none)
    else none
  | _ => none

def required? (value? : Json → Option α) (field : Option Json) : Option α := field.bind value?

def withDefault? (value? : Json → Option α) (default : α) : Option Json → Option α
  | none => some default
  | some value => value? value

end TextFeatures.Json
