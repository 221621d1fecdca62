import TextFeatures.Unicode.Classes
import TextFeatures.Unicode.Lowercase.Table

namespace TextFeatures.Unicode

def lowercaseChar (c : Char) : List Char :=
  if isAscii c then [c.toLower] else (lowercaseTable.find? c.toNat).getD [c]

def startsCased (text : List Char) : Bool :=
  match text.dropWhile (isCaseIgnorable .v17) with
  | [] => false
  | c :: _ => isCased .v17 c

-- Only the capital sigma looks at its surroundings: it is final when a cased character stands
-- before it and none after it, case-ignorable characters apart.
def lowercaseSigma (before after : List Char) : Char :=
  if startsCased before && !startsCased after then 'ς' else 'σ'

-- Lowercases `text`, where `before` is what precedes it, last character first.
def lowercaseAfter (before : List Char) : List Char → List Char
  | [] => []
  | c :: rest =>
    (if c = 'Σ' then [lowercaseSigma before rest] else lowercaseChar c) ++
      lowercaseAfter (c :: before) rest

def lowercase (text : String) : String := String.ofList (lowercaseAfter [] text.toList)

end TextFeatures.Unicode
