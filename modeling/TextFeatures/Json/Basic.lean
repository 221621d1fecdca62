namespace TextFeatures

structure Numeral where
  negative : Bool
  whole : List Nat
  fraction : List Nat
  exponent : Option (Bool × List Nat)
deriving DecidableEq, Repr

-- The text of a string is `none` where its escapes name one half of a surrogate pair: such a string
-- stands for no text, and only a reader that skips it can go past it.
inductive Json where
  | null
  | bool (value : Bool)
  | number (value : Numeral)
  | string (text : Option String)
  | array (items : List Json)
  | object (members : List (Option String × Json))
deriving Repr

namespace Json

def text (value : String) : Json := string (some value)

def record (members : List (String × Json)) : Json :=
  object (members.map fun member => (some member.1, member.2))

def optional (toJson : α → Json) : Option α → Json
  | none => null
  | some value => toJson value

end Json

end TextFeatures
