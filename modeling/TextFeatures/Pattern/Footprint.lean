import Std.Data.HashMap
import TextFeatures.Pattern.Simplified

namespace TextFeatures.Pattern
open Unicode

-- How much room a pattern takes as an automaton over bytes. Neither the automaton that reads texts
-- forward nor the one that reads them backward may take more than ten mebibytes.
structure Footprint where
  states : Nat
  bytes : Nat

namespace Footprint

def stateBytes : Nat := 32
def edgeBytes : Nat := 8
def branchBytes : Nat := 4

def add (print : Footprint) (extra : Nat) : Footprint :=
  ⟨print.states + 1, print.bytes + stateBytes + extra⟩

def addBranches (print : Footprint) (n : Nat) : Footprint := print.add (n * branchBytes)

def addEdges (print : Footprint) (n : Nat) : Footprint := print.add (n * edgeBytes)

def addChain (print : Footprint) (n : Nat) : Footprint :=
  ⟨print.states + n, print.bytes + n * stateBytes⟩

def limit : Nat := 0xa00000

def exceeds (print : Footprint) : Bool := limit < print.bytes

abbrev Edge := Nat × Nat × Nat

def hashStart : UInt64 := 14695981039346656037
def hashFactor : UInt64 := 1099511628211

def mix (hash : UInt64) (n : Nat) : UInt64 := (hash ^^^ n.toUInt64) * hashFactor

def mixEdge (hash : UInt64) (edge : Edge) : UInt64 :=
  mix (mix (mix hash edge.1) edge.2.1) edge.2.2

abbrev Recent (α : Type) := Std.HashMap Nat (α × Nat)

def Recent.find? [BEq α] (recent : Recent α) (slot : Nat) (key : α) : Option Nat :=
  match recent[slot]? with
  | some (found, state) => if found == key then some state else none
  | none => none

-- Sets of characters share the states for equal ends, or read backward for equal starts, of their
-- encodings, as far as tables of a fixed size remember them.
structure Sharing (α : Type) where
  print : Footprint
  recent : Recent α

def forwardSlots : Nat := 10000
def backwardSlots : Nat := 1000

def Sharing.state (sharing : Sharing (List Edge)) (edges : List Edge) :
    Nat × Sharing (List Edge) :=
  let slot := (edges.foldl mixEdge hashStart).toNat % forwardSlots
  match sharing.recent.find? slot edges with
  | some state => (state, sharing)
  | none =>
    let state := sharing.print.states
    (state, ⟨sharing.print.addEdges edges.length, sharing.recent.insert slot (edges, state)⟩)

-- A state to be: its edges, and a range of bytes that leads to the state to be behind it.
structure Open where
  edges : List Edge
  last : Option (Nat × Nat)

def Open.close (opened : Open) (target : Nat) : List Edge :=
  match opened.last with
  | some (low, high) => opened.edges ++ [(low, high, target)]
  | none => opened.edges

-- Closes states to be, the last one first, and gives the state that the first of them becomes.
def closeAll (target : Nat) : List Open → Sharing (List Edge) → Nat × Sharing (List Edge)
  | [], sharing => (target, sharing)
  | opened :: rest, sharing =>
    let (next, sharing) := closeAll target rest sharing
    sharing.state (opened.close next)

def sharedStart : List Open → Encoding → Nat
  | opened :: rest, range :: ranges =>
    if opened.last = some range then sharedStart rest ranges + 1 else 0
  | _, _ => 0

def openFrom : Encoding → List Open
  | [] => []
  | range :: ranges => ⟨[], some range⟩ :: openFrom ranges

def addEncoding (target : Nat) (waiting : List Open × Sharing (List Edge)) (encoding : Encoding) :
    List Open × Sharing (List Edge) :=
  let shared := sharedStart waiting.1 encoding
  match waiting.1.drop shared, encoding.drop shared with
  | opened :: rest, range :: ranges =>
    let (next, sharing) := closeAll target rest waiting.2
    (waiting.1.take shared ++ ⟨opened.close next, some range⟩ :: openFrom ranges, sharing)
  | _, _ => waiting

def addForwardSet (encodings : List Encoding) (print : Footprint) : Footprint :=
  let target := print.states
  let (opened, sharing) :=
    encodings.foldl (addEncoding target) ([⟨[], none⟩], ⟨print.add 0, ∅⟩)
  (closeAll target opened sharing).2.print

def addBackwardRange (before : Nat × Sharing Edge) (range : Nat × Nat) : Nat × Sharing Edge :=
  let (target, sharing) := before
  let edge := (range.1, range.2, target)
  let slot := (mix (mix (mix hashStart target) range.1) range.2).toNat % backwardSlots
  match sharing.recent.find? slot edge with
  | some state => (state, sharing)
  | none =>
    let state := sharing.print.states
    (state, ⟨sharing.print.add 0, sharing.recent.insert slot (edge, state)⟩)

def addBackwardSet (encodings : List Encoding) (print : Footprint) : Footprint :=
  let print := print.addBranches encodings.length
  let target := print.states
  let sharing := encodings.foldl (fun sharing encoding =>
    (encoding.foldl addBackwardRange (target, sharing)).2) (⟨print.add 0, ∅⟩ : Sharing Edge)
  sharing.print

def addSet (backward : Bool) (members : Spans) (encodings : List Encoding) (print : Footprint) :
    Footprint :=
  if members.all (·.2 < 0x80) then (print.add 0).addEdges members.length
  else if backward then addBackwardSet encodings print
  else addForwardSet encodings print

-- Texts in order, cut wherever one of them ends: what comes behind it is less preferred.
def runsOfTexts (texts : List (List Nat)) : List (List (List Nat)) :=
  let (runs, current) := texts.foldl (fun (runs, current) text =>
    if text.isEmpty then
      if runs.all List.isEmpty && current.isEmpty && !runs.isEmpty then (runs, current)
      else (runs ++ [current], [])
    else (runs, current ++ [text])) (([], []) : List (List (List Nat)) × List (List Nat))
  runs ++ [current]

def byFirst : List (List Nat) → List (Nat × List (List Nat))
  | [] => []
  | [] :: rest => byFirst rest
  | (b :: text) :: rest =>
    let others := byFirst rest
    match others.find? fun entry => entry.1 = b with
    | some (_, texts) => (b, text :: texts) :: others.filter fun entry => entry.1 ≠ b
    | none => (b, [text]) :: others

def addTexts : Nat → List (List Nat) → Footprint → Footprint
  | 0, _, print => print
  | fuel + 1, texts, print =>
    let runs := runsOfTexts texts
    let print := runs.foldl (fun print run =>
      let groups := byFirst run
      let print := groups.foldl (fun print (_, ends) =>
        if ends.all List.isEmpty then print else addTexts fuel ends print) print
      match groups.length with
      | 0 => print
      | 1 => print.add 0
      | n => print.addEdges n) print
    let used := (runs.filter fun run => !run.isEmpty).length
    print.addBranches (used + (runs.length - 1))

def bytesOf (chars : List Char) : List Nat := chars.flatMap fun c => encode c.toNat

def addAlternativeTexts (backward : Bool) (texts : List (List Char)) (print : Footprint) :
    Footprint :=
  let texts := texts.map fun chars => if backward then (bytesOf chars).reverse else bytesOf chars
  addTexts (texts.foldl (fun longest text => max longest text.length) 0 + 1) texts (print.add 0)

def texts? : List Simplified → Option (List (List Char))
  | [] => some []
  | .text chars :: rest => (texts? rest).map (chars :: ·)
  | _ => none

def addCopies (copy : Footprint → Footprint) : Nat → Footprint → Footprint
  | 0, print => print
  | n + 1, print => if print.exceeds then print else addCopies copy n (copy print)

def addExactly (copy : Footprint → Footprint) (n : Nat) (print : Footprint) : Footprint :=
  if n = 0 then print.add 0 else addCopies copy n print

def addRepetition (consumes : Bool) (least : Nat) (most : Option Nat)
    (copy : Footprint → Footprint) (print : Footprint) : Footprint :=
  match least, most with
  | 0, some 1 => (copy (print.addBranches 2)).add 0
  | 0, none =>
    if consumes then copy (print.addBranches 2)
    else (((copy print).addBranches 2).addBranches 2).add 0
  | least + 1, none => (addExactly copy (least + 1) print).addBranches 2
  | least, some most =>
    let print := addExactly copy least print
    if least = most then print
    else addCopies (fun print => copy (print.addBranches 2)) (most - least) (print.add 0)

mutual

def addPart (backward : Bool) : Simplified → Footprint → Footprint
  | .empty, print => print.add 0
  | .text chars, print => print.addChain (bytesOf chars).length
  | .set members encodings, print => addSet backward members encodings print
  | .look _, print => print.add 0
  | .seq parts, print =>
    if backward then addBackwardParts parts print else addParts parts print
  | .alt branches, print =>
    match texts? branches with
    | some texts => addAlternativeTexts backward texts print
    | none => addBranchesOf backward branches print
  | .repeated least most _ body, print =>
    addRepetition ((body.consumes?).getD false) least most (addPart backward body) print
  | .group body, print =>
    if backward then addPart backward body print
    else (addPart backward body (print.add 0)).add 0

def addParts : List Simplified → Footprint → Footprint
  | [], print => print
  | part :: rest, print => addParts rest (addPart false part print)

def addBackwardParts : List Simplified → Footprint → Footprint
  | [], print => print
  | part :: rest, print => addPart true part (addBackwardParts rest print)

-- The state that chooses comes behind the first two alternatives.
def addBranchesOf (backward : Bool) : List Simplified → Footprint → Footprint
  | [], print => print
  | [branch], print => addPart backward branch print
  | first :: second :: rest, print =>
    let print := addPart backward second (addPart backward first print)
    addOthers backward rest ((print.addBranches (rest.length + 2)).add 0)

def addOthers (backward : Bool) : List Simplified → Footprint → Footprint
  | [], print => print
  | branch :: rest, print => addOthers backward rest (addPart backward branch print)

end

-- An automaton that finds matches anywhere skips bytes first, unless matches are bound to the end of
-- the text at which it starts.
def lead (bound : Bool) : Footprint :=
  let none : Footprint := ⟨0, 0⟩
  if bound then none.add 0 else ((none.addBranches 2).add 0).addEdges 1

def ofPattern (backward : Bool) (pattern : Simplified) : Footprint :=
  let start := lead (pattern.boundBy (if backward then .textEnd else .textStart) backward)
  if backward then (addPart true pattern start).add 0
  else ((addPart false pattern (start.add 0)).add 0).add 0

end Footprint

def spanBytes : Nat := 3000
def propertyBytes : Nat := 150000
def closureBytes : Nat := 400000

def CharClass.bytesAtMost : CharClass → Nat
  | .empty => 100
  | .range _ _ => spanBytes
  | .property _ => propertyBytes
  | .union left right => left.bytesAtMost + right.bytesAtMost
  | .intersection left right => left.bytesAtMost + right.bytesAtMost + spanBytes
  | .difference left right => left.bytesAtMost + right.bytesAtMost + spanBytes
  | .exclusion left right => left.bytesAtMost + right.bytesAtMost + spanBytes
  | .complement body => body.bytesAtMost + spanBytes
  | .anyCase (.range first last) => if first = last then spanBytes else closureBytes
  | .anyCase body => body.bytesAtMost + closureBytes
  | .anyAsciiCase body => body.bytesAtMost + spanBytes

def Expr.bytesAtMost : Expr → Nat
  | .empty => 32
  | .one accepted => accepted.bytesAtMost
  | .look _ => 32
  | .seq first second => first.bytesAtMost + second.bytesAtMost
  | .alt preferred other => preferred.bytesAtMost + other.bytesAtMost + 100
  | .repeated least most _ body => (most.getD least + 1) * (body.bytesAtMost + 100)
  | .group _ body => body.bytesAtMost + 64

-- Whether a pattern is small at first sight, as most patterns are.
def Expr.isSmall (expr : Expr) : Bool := expr.bytesAtMost ≤ Footprint.limit - 1000

def Simplified.fits (pattern : Simplified) : Bool :=
  !(Footprint.ofPattern false pattern).exceeds && !(Footprint.ofPattern true pattern).exceeds

end TextFeatures.Pattern
