import TextFeatures.Pattern.Reader
import TextFeatures.Pattern.Search
import TextFeatures.Pattern.Texts

namespace TextFeatures

structure Pattern where
  source : String
  program : Pattern.Program
deriving DecidableEq, Repr

namespace Pattern

def ofText? (source : String) : Option Pattern := do
  let expr ← Expr.ofText? source
  let searched ← expr.searched?
  return ⟨source, searched.toProgram⟩

def findAll (pattern : Pattern) (text : String) : List Match := pattern.program.findAll text.toList

end Pattern

end TextFeatures
