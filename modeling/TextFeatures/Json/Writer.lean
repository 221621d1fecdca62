import TextFeatures.Json.Basic

namespace TextFeatures.Json

def hexDigit (n : Nat) : Char := Char.ofNat (if n < 10 then '0'.toNat + n else 'a'.toNat + (n - 10))

def writeChar (c : Char) : List Char :=
  match c with
  | '"' => ['\\', '"']
  | '\\' => ['\\', '\\']
  | '\x08' => ['\\', 'b']
  | '\x0c' => ['\\', 'f']
  | '\n' => ['\\', 'n']
  | '\r' => ['\\', 'r']
  | '\t' => ['\\', 't']
  | _ =>
    if c.toNat < 0x20 then
      ['\\', 'u', '0', '0', hexDigit (c.toNat / 16), hexDigit (c.toNat % 16)]
    else [c]

def writeText (text : String) : List Char := '"' :: text.toList.flatMap writeChar ++ ['"']

def writeDigits (digits : List Nat) : List Char := digits.map hexDigit

def writeNumeral (n : Numeral) : List Char :=
  (if n.negative then ['-'] else []) ++ writeDigits n.whole ++
    (if n.fraction.isEmpty then [] else '.' :: writeDigits n.fraction) ++
    match n.exponent with
    | none => []
    | some (down, digits) => 'e' :: (if down then '-' else '+') :: writeDigits digits

mutual

def write : Json → List Char
  | null => "null".toList
  | bool true => "true".toList
  | bool false => "false".toList
  | number value => writeNumeral value
  | string text => writeText (text.getD "")
  | array items => '[' :: writeItems items ++ [']']
  | object members => '{' :: writeMembers members ++ ['}']

def writeItems : List Json → List Char
  | [] => []
  | [item] => write item
  | item :: rest => write item ++ ',' :: writeItems rest

def writeMembers : List (Option String × Json) → List Char
  | [] => []
  | [(key, value)] => writeText (key.getD "") ++ ':' :: write value
  | (key, value) :: rest => writeText (key.getD "") ++ ':' :: write value ++ ',' :: writeMembers rest

end

def render (value : Json) : String := String.ofList (write value)

end TextFeatures.Json
