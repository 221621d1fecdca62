import TextFeatures.Error
import TextFeatures.Tokens.Token

namespace TextFeatures

def wordWindows (size : Nat) : List String → List (List String)
  | [] => []
  | word :: rest =>
    if size ≤ ((word :: rest).take size).length then
      (word :: rest).take size :: wordWindows size rest
    else []

def wordGramsOfSizes (sizes : List Nat) (words : List String) : List String :=
  sizes.flatMap fun size => (wordWindows size words).map joined

-- Single words are taken over as they are. A window has to have a word in it, and so a range of sizes
-- that starts at zero is a fault unless it ends at one.
def wordGrams (least most : Nat) (words : List String) : Except Fault (List String) :=
  if most = 1 then .ok words
  else
    let (singles, least) := if least = 1 then (words, 2) else ([], least)
    let most := min most words.length
    if least = 0 then .error .emptyWindow
    else .ok (singles ++ wordGramsOfSizes (List.range' least (most + 1 - least)) words)

end TextFeatures
