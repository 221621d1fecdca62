import TextFeatures.Unicode.Decomposition

namespace TextFeatures.Text
open Unicode

inductive AccentStripping where
  | ascii
  | unicode
deriving DecidableEq, Repr

-- Text in ASCII has nothing to strip; telling so first saves its decomposition.
def AccentStripping.strip (mode : AccentStripping) (text : String) : String :=
  match mode with
  | ascii => String.ofList ((decompose text.toList).filter isAscii)
  | unicode =>
    if text.toList.all isAscii then text
    else String.ofList ((decompose text.toList).filter fun c => !isMark c)

end TextFeatures.Text
