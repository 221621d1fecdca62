import TextFeatures.Error
import TextFeatures.Tokens.Words

namespace TextFeatures
open Unicode

structure GramSizes where
  least : Nat
  most : Nat
  insideWords : Bool
deriving DecidableEq, Repr

namespace GramSizes

def ofRange (least most : Nat) (insideWords : Bool) : Except AnalysisError GramSizes :=
  if least = 0 then .error .zeroGram
  else if most < least then .error (.gramRange least most)
  else .ok ⟨least, most, insideWords⟩

end GramSizes

namespace Grams

-- The text with a single space for every run of two or more blanks.
def collapseBlanks : List Char → List Char
  | [] => []
  | [c] => [c]
  | c :: d :: rest =>
    if isBlank c && isBlank d then ' ' :: (collapseBlanks (d :: rest)).tail
    else c :: collapseBlanks (d :: rest)

def windowsFrom (size offset : Nat) (text : List Char) : List (Nat × List Char) :=
  if size ≤ (text.take size).length then
    (offset, text.take size) ::
      match text with
      | [] => []
      | _ :: rest => windowsFrom size (offset + 1) rest
  else []

def sizesUpTo (least most : Nat) : List Nat := List.range' least (most + 1 - least)

def windowToken (size : Nat) (window : Nat × List Char) : Token :=
  Token.plain (String.ofList window.2) window.1 (window.1 + size)

-- The spans lie in the text with its blanks collapsed.
def plain (least most : Nat) (text : List Char) : List Token :=
  let collapsed := collapseBlanks text
  (sizesUpTo least (min most collapsed.length)).flatMap fun size =>
    (windowsFrom size 0 collapsed).map (windowToken size)

def ofPadded (size : Nat) (padded : List Char) : List (List Char) :=
  if padded.length ≤ size then [padded] else (windowsFrom size 0 padded).map Prod.snd

-- A word that is no longer than a gram gives itself once, and larger sizes nothing more.
def sizesInside (length least : Nat) : Nat → List Nat
  | 0 => []
  | count + 1 =>
    if length ≤ least then [least] else least :: sizesInside length (least + 1) count

-- All grams inside a word have the span of the word.
def ofRun (least most : Nat) (run : Nat × List Char) : List Token :=
  let padded := ' ' :: run.2 ++ [' ']
  (sizesInside padded.length least (most + 1 - least)).flatMap fun size =>
    (ofPadded size padded).map fun gram =>
      Token.plain (String.ofList gram) run.1 (run.1 + run.2.length)

def insideWords (least most : Nat) (text : List Char) : List Token :=
  (Words.runs text).flatMap (ofRun least most)

end Grams

def GramSizes.tokens (sizes : GramSizes) (text : String) : List Token :=
  if sizes.insideWords then Grams.insideWords sizes.least sizes.most text.toList
  else Grams.plain sizes.least sizes.most text.toList

end TextFeatures
