import TextFeatures.Error
import TextFeatures.Pattern
import TextFeatures.Tokens.Token

namespace TextFeatures

namespace Pattern

def defaultSource : String := "(?u)\\b\\w\\w+\\b"

def compile (source : String) : Except AnalysisError Pattern :=
  match ofText? source with
  | none => .error .invalidPattern
  | some pattern => .ok pattern

def matchToken (found : Match) : Token :=
  Token.plain (String.ofList found.text) found.start found.stop

def tokens (pattern : Pattern) (text : String) : List Token :=
  (pattern.findAll text).map matchToken

def spliceFrom (replacement : List Char) (offset : Nat) (text : List Char) :
    List Match → List Char
  | [] => text
  | found :: more =>
    text.take (found.start - offset) ++ replacement ++
      spliceFrom replacement found.stop (text.drop (found.stop - offset)) more

def replaceAll (pattern : Pattern) (replacement text : String) : String :=
  String.ofList (spliceFrom replacement.toList 0 text.toList (pattern.findAll text))

end Pattern

end TextFeatures
