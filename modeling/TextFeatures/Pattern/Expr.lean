import TextFeatures.Pattern.CharClass

namespace TextFeatures.Pattern

inductive Look where
  | textStart
  | textEnd
  | lineStart
  | lineEnd
  | crlfStart
  | crlfEnd
  | wordBoundary (word : CharClass)
  | notWordBoundary (word : CharClass)
  | wordStart (word : CharClass)
  | wordEnd (word : CharClass)
  | wordStartHalf (word : CharClass)
  | wordEndHalf (word : CharClass)
deriving DecidableEq, Repr

-- A pattern with its options worked in. Where a match lies does not depend on groups, but how much
-- room the pattern takes does.
inductive Expr where
  | empty
  | one (accepted : CharClass)
  | look (look : Look)
  | seq (first second : Expr)
  | alt (preferred other : Expr)
  | repeated (least : Nat) (most : Option Nat) (greedy : Bool) (body : Expr)
  | group (captures : Bool) (body : Expr)
deriving DecidableEq, Repr

namespace Expr

def consumes : Expr → Bool
  | empty => false
  | one _ => true
  | look _ => false
  | seq first second => first.consumes || second.consumes
  | alt preferred other => preferred.consumes && other.consumes
  | repeated least _ _ body => 0 < least && body.consumes
  | group _ body => body.consumes

def vacuous : Expr → Bool
  | empty => true
  | one _ => false
  | look _ => true
  | seq first second => first.vacuous && second.vacuous
  | alt preferred other => preferred.vacuous && other.vacuous
  | repeated _ most _ body => most = some 0 || body.vacuous
  | group _ body => body.vacuous

-- What matches without a character does so once or as often as one likes: one repetition is enough.
def times (least : Nat) (most : Option Nat) (greedy : Bool) (body : Expr) : Expr :=
  let (least, most) :=
    if body.vacuous then (min least 1, some (min (most.getD 1) 1)) else (least, most)
  if most = some 0 then empty
  else if least = 1 ∧ most = some 1 then body
  else repeated least most greedy body

end Expr

end TextFeatures.Pattern
