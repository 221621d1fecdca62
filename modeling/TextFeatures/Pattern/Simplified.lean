import TextFeatures.Pattern.Expr
import TextFeatures.Unicode.Encoding

namespace TextFeatures.Pattern
open Unicode

-- A pattern with its parts joined where they can be: neighbouring characters form texts, and
-- characters to choose from form sets.
inductive Simplified where
  | empty
  | text (chars : List Char)
  | set (members : Spans) (encodings : List Encoding)
  | look (look : Look)
  | seq (parts : List Simplified)
  | alt (branches : List Simplified)
  | repeated (least : Nat) (most : Option Nat) (greedy : Bool) (body : Simplified)
  | group (body : Simplified)
deriving BEq

namespace Simplified

mutual

def vacuous : Simplified → Bool
  | empty => true
  | text _ => false
  | set _ _ => false
  | look _ => true
  | seq parts => allVacuous parts
  | alt branches => allVacuous branches
  | repeated _ _ _ body => vacuous body
  | group body => vacuous body

def allVacuous : List Simplified → Bool
  | [] => true
  | part :: rest => vacuous part && allVacuous rest

end

mutual

-- Whether every match has a character, or `none` if a set without members keeps part of the pattern
-- from matching at all.
def consumes? : Simplified → Option Bool
  | empty => some false
  | text _ => some true
  | set members _ => if members.isEmpty then none else some true
  | look _ => some false
  | seq parts => anyConsumes? parts
  | alt branches => allConsume? branches
  | repeated least _ _ body => (consumes? body).map fun consumes => 0 < least && consumes
  | group body => consumes? body

def anyConsumes? : List Simplified → Option Bool
  | [] => some false
  | part :: rest =>
    match consumes? part, anyConsumes? rest with
    | some one, some other => some (one || other)
    | _, _ => none

def allConsume? : List Simplified → Option Bool
  | [] => some true
  | part :: rest =>
    match consumes? part, allConsume? rest with
    | some one, some other => some (one && other)
    | _, _ => none

end

mutual

-- Whether every match has to start, or in the other direction to end, where a condition holds.
def boundBy (condition : Look) (backward : Bool) : Simplified → Bool
  | empty => false
  | text _ => false
  | set _ _ => false
  | look l => l = condition
  | seq parts =>
    if backward then lastBoundBy condition parts else firstBoundBy condition parts
  | alt branches => allBoundBy condition backward branches
  | repeated least _ _ body => 0 < least && boundBy condition backward body
  | group body => boundBy condition backward body

def firstBoundBy (condition : Look) : List Simplified → Bool
  | [] => false
  | part :: rest =>
    boundBy condition false part || (vacuous part && firstBoundBy condition rest)

def lastBoundBy (condition : Look) : List Simplified → Bool
  | [] => false
  | part :: rest =>
    lastBoundBy condition rest || (allVacuous rest && boundBy condition true part)

def allBoundBy (condition : Look) (backward : Bool) : List Simplified → Bool
  | [] => true
  | part :: rest => boundBy condition backward part && allBoundBy condition backward rest

end

mutual

def hasGroup : Simplified → Bool
  | seq parts => anyHasGroup parts
  | alt branches => anyHasGroup branches
  | repeated _ _ _ body => hasGroup body
  | group _ => true
  | _ => false

def anyHasGroup : List Simplified → Bool
  | [] => false
  | part :: rest => hasGroup part || anyHasGroup rest

end

-- Groups are counted, so no two of them are the same.
def sameAs (left right : Simplified) : Bool := left == right && !left.hasGroup

def ofSpans (members : Spans) : Simplified :=
  match members with
  | [(first, last)] =>
    if first = last then text [Char.ofNat first] else set members (members.flatMap encodings)
  | _ => set members (members.flatMap encodings)

def consPart : Simplified → List Simplified → List Simplified
  | empty, rest => rest
  | text chars, text more :: rest => text (chars ++ more) :: rest
  | part, rest => part :: rest

def partsOf : Simplified → List Simplified
  | empty => []
  | seq parts => parts
  | part => [part]

def ofParts : List Simplified → Simplified
  | [] => empty
  | [part] => part
  | parts => seq parts

-- There are no sequences in the sequence.
def append (first second : Simplified) : Simplified :=
  ofParts ((partsOf first).foldr consPart (partsOf second))

def join (parts : List Simplified) : Simplified := parts.foldr append empty

def branchesOf : Simplified → List Simplified
  | alt branches => branches
  | branch => [branch]

def singleChars? : List Simplified → Option (List Char)
  | [] => some []
  | text [c] :: rest => (singleChars? rest).map (c :: ·)
  | _ => none

def memberSets? : List Simplified → Option Spans
  | [] => some []
  | set members _ :: rest => (memberSets? rest).map members.union
  | _ => none

def commonParts : List Simplified → List Simplified → Nat
  | x :: xs, y :: ys => if x.sameAs y then commonParts xs ys + 1 else 0
  | _, _ => 0

def sharedParts (branches : List Simplified) : Nat :=
  match branches with
  | seq first :: rest =>
    rest.foldl (fun count branch => match branch with
      | seq parts => min count (commonParts first parts)
      | _ => 0) first.length
  | _ => 0

def dropParts (count : Nat) (branch : Simplified) : Simplified :=
  join ((partsOf branch).drop count)

mutual

def size : Simplified → Nat
  | seq parts => sizeAll parts + 1
  | alt branches => sizeAll branches + 1
  | repeated _ _ _ body => size body + 1
  | group body => size body + 1
  | _ => 1

def sizeAll : List Simplified → Nat
  | [] => 0
  | part :: rest => size part + sizeAll rest

end

-- What all alternatives start with is taken out in front of them. What is left of them is smaller, so
-- their size bounds the recursion.
def chooseWithin : Nat → List Simplified → Simplified
  | 0, branches => alt branches
  | fuel + 1, branches =>
    match branches.flatMap branchesOf with
    | [] => ofSpans []
    | [branch] => branch
    | branches =>
      match singleChars? branches with
      | some chars => ofSpans (Spans.ofPairs (chars.map fun c => (c.toNat, c.toNat)))
      | none =>
        match memberSets? branches with
        | some members => ofSpans members
        | none =>
          let shared := sharedParts branches
          if shared = 0 then alt branches
          else
            join ((partsOf (branches.headD empty)).take shared ++
              [chooseWithin fuel (branches.map (dropParts shared))])

def choose (branches : List Simplified) : Simplified :=
  match branches with
  | [branch] => branch
  | _ => chooseWithin (sizeAll branches + 1) branches

def times (least : Nat) (most : Option Nat) (greedy : Bool) (body : Simplified) : Simplified :=
  let (least, most) :=
    if body.vacuous then (min least 1, some (min (most.getD 1) 1)) else (least, most)
  if most = some 0 then empty
  else if least = 1 ∧ most = some 1 then body
  else repeated least most greedy body

end Simplified

-- A group keeps the alternatives in it together.
def Expr.branches : Expr → List Simplified
  | .empty => [.empty]
  | .one accepted => [.ofSpans accepted.spans.characters]
  | .look l => [.look l]
  | .seq first second => [.append (.choose first.branches) (.choose second.branches)]
  | .alt preferred other => .choose preferred.branches :: other.branches
  | .repeated least most greedy body => [.times least most greedy (.choose body.branches)]
  | .group captures body =>
    [if captures then .group (.choose body.branches) else .choose body.branches]

def Expr.simplify (expr : Expr) : Simplified := .choose expr.branches

end TextFeatures.Pattern
