import TextFeatures.Tokens.Token
import TextFeatures.Unicode.Classes

namespace TextFeatures.Words
open Unicode

-- The maximal runs of characters that are not blank, each with its offset, in a text whose first
-- character has the offset `offset`.
def runsFrom (offset : Nat) : List Char → List (Nat × List Char)
  | [] => []
  | c :: rest =>
    let later := runsFrom (offset + 1) rest
    if isBlank c then later
    else match later with
      | [] => [(offset, [c])]
      | (start, run) :: more =>
        if start = offset + 1 then (offset, c :: run) :: more
        else (offset, [c]) :: (start, run) :: more

def runs (text : List Char) : List (Nat × List Char) := runsFrom 0 text

def runToken (run : Nat × List Char) : Token :=
  Token.plain (String.ofList run.2) run.1 (run.1 + run.2.length)

def tokens (text : String) : List Token := (runs text.toList).map runToken

end TextFeatures.Words
