import TextFeatures.Json.Number
import TextFeatures.Json.Decode
import TextFeatures.Tokens.Grams
import TextFeatures.Tokens.PatternTokens

namespace TextFeatures

def Pattern.toJson (pattern : Pattern) : Json := .text pattern.source

def Pattern.ofJson? (value : Json) : Option Pattern := value.text?.bind ofText?

def GramSizes.toJson (sizes : GramSizes) : Json := .record [
  ("min_gram", .natural sizes.least),
  ("max_gram", .natural sizes.most),
  ("word_bounded", .bool sizes.insideWords)]

-- Any two sizes are read, even such as no range has.
def GramSizes.ofJson? (value : Json) : Option GramSizes :=
  match value.fields? ["min_gram", "max_gram", "word_bounded"] with
  | some [least, most, insideWords] => do
    return {
      least := ← Json.required? Json.natural? least
      most := ← Json.required? Json.natural? most
      insideWords := ← Json.required? Json.bool? insideWords }
  | _ => none

end TextFeatures
