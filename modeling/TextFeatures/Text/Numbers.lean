import TextFeatures.Tokens.PatternTokens

namespace TextFeatures.Text

def numberSource : String := "\\b[0-9]+\\b"

def numberMarker : String := "__NUMBER__"

def collapseNumbers (text : String) : String :=
  match Pattern.ofText? numberSource with
  | none => text
  | some pattern => pattern.replaceAll numberMarker text

end TextFeatures.Text
