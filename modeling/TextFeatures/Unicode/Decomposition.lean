import TextFeatures.Unicode.Classes
import TextFeatures.Unicode.Decomposition.Table
import TextFeatures.Unicode.Decomposition.CombiningClass

namespace TextFeatures.Unicode

def decomposeSyllable (index : Nat) : List Char :=
  let leading := Char.ofNat (0x1100 + index / 588)
  let vowel := Char.ofNat (0x1161 + index % 588 / 28)
  if index % 28 = 0 then [leading, vowel]
  else [leading, vowel, Char.ofNat (0x11a7 + index % 28)]

def decomposeChar (c : Char) : List Char :=
  if isAscii c then [c]
  else if 0xac00 ≤ c.toNat && c.toNat ≤ 0xd7a3 then decomposeSyllable (c.toNat - 0xac00)
  else (decompositionTable.find? c.toNat).getD [c]

def combiningClass (c : Char) : Nat :=
  if c.toNat < 0x300 then 0 else (combiningClassTable.find? c.toNat).getD 0

-- A character moves behind the marks of a lower class that follow it, and behind nothing else.
def insertOrdered (c : Char) : List Char → List Char
  | [] => [c]
  | d :: rest =>
    if combiningClass d ≠ 0 ∧ combiningClass d < combiningClass c then d :: insertOrdered c rest
    else c :: d :: rest

def canonicalOrder (text : List Char) : List Char := text.foldr insertOrdered []

def decompose (text : List Char) : List Char := canonicalOrder (text.flatMap decomposeChar)

end TextFeatures.Unicode
