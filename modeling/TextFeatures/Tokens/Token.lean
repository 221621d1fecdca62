namespace TextFeatures

structure Token where
  text : String
  start : Nat
  stop : Nat
  baseForm : Option String
deriving DecidableEq, Repr

namespace Token

def plain (text : String) (start stop : Nat) : Token := ⟨text, start, stop, none⟩

def baseFormOrText (token : Token) : String := token.baseForm.getD token.text

-- a span that ends before it starts covers nothing
def length (token : Token) : Nat := token.stop - token.start

def isEmpty (token : Token) : Bool := token.text.isEmpty

end Token

def textsOf (tokens : List Token) : List String := tokens.map Token.text

def joined (texts : List String) : String := " ".intercalate texts

end TextFeatures
