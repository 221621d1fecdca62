import TextFeatures.Pattern.Footprint

namespace TextFeatures.Pattern

-- The first bytes of a match, and the whole match if these are all of its bytes.
structure Start where
  bytes : List Nat
  text : Option (List Char)
deriving DecidableEq, Repr

namespace Start

def empty : Start := ⟨[], some []⟩

def ofText (chars : List Char) : Start := ⟨Footprint.bytesOf chars, some chars⟩

def cut (start : Start) : Start := { start with text := none }

def take (length : Nat) (start : Start) : Start :=
  if start.bytes.length ≤ length then start else ⟨start.bytes.take length, none⟩

def followedBy (start next : Start) : Start :=
  ⟨start.bytes ++ next.bytes, start.text.bind fun chars => next.text.map (chars ++ ·)⟩

end Start

def joinEqual : List Start → List Start
  | [] => []
  | start :: rest =>
    match joinEqual rest with
    | [] => [start]
    | next :: others =>
      if start.bytes = next.bytes then
        (if start.text.isSome then next else start) :: others
      else start :: next :: others

-- Leaves out whatever starts with what is preferred to it.
def leaveOutShadowed (starts : List Start) : List Start :=
  starts.foldl (fun kept start =>
    if kept.any fun before => before.bytes.isPrefixOf start.bytes then kept
    else kept ++ [start]) []

-- The starts of all matches, preferred ones first, or `none` if there are too many to tell.
abbrev Starts := Option (List Start)

namespace Starts

def setLimit : Nat := 10
def copyLimit : Nat := 10
def lengthLimit : Nat := 100
def countLimit : Nat := 250

def shortLength : Nat := 4

def settled (starts : Starts) : Bool := starts.all fun starts => starts.all (·.text.isNone)

def cut (starts : Starts) : Starts := starts.map fun starts => starts.map Start.cut

def followedByAny (starts : List Start) : Starts :=
  if starts.any (·.bytes.isEmpty) then none else some (starts.map Start.cut)

def extend (nexts : List Start) (start : Start) : List Start :=
  if start.text.isSome then nexts.map start.followedBy else [start]

def followedBy (starts nexts : Starts) : Starts :=
  match starts, nexts with
  | none, _ => none
  | some starts, none => followedByAny starts
  | some starts, some nexts =>
    if countLimit < starts.length * nexts.length then followedByAny starts
    else some ((joinEqual (starts.flatMap (extend nexts))).map (.take lengthLimit))

def shorten (starts : List Start) : List Start := joinEqual (starts.map (.take shortLength))

def or (starts others : Starts) : Starts :=
  match starts, others with
  | some starts, some others =>
    if starts.length + others.length ≤ countLimit then some (joinEqual (starts ++ others))
    else if (shorten starts).length + (shorten others).length ≤ countLimit then
      some (joinEqual (shorten starts ++ shorten others))
    else none
  | _, _ => none

def ofSpans (members : Unicode.Spans) : Starts :=
  if setLimit < members.foldl (fun count span => count + (span.2 + 1 - span.1)) 0 then none
  else
    some (members.flatMap fun span =>
      (List.range' span.1 (span.2 + 1 - span.1)).map fun code => .ofText [Char.ofNat code])

def followedByCopies (once : Starts) : Nat → Starts → Starts
  | 0, starts => starts
  | count + 1, starts =>
    if starts.settled then starts else followedByCopies once count (starts.followedBy once)

def times (least : Nat) (most : Option Nat) (greedy : Bool) (once : Starts) : Starts :=
  let nothing : Starts := some [.empty]
  if least = 0 then
    let once := if most = some 1 then once else once.cut
    if greedy then once.or nothing else nothing.or once
  else
    let starts := followedByCopies once (min least copyLimit) nothing
    if most = some least ∧ least ≤ copyLimit then starts else starts.cut

end Starts

namespace Simplified

mutual

def starts : Simplified → Starts
  | empty => some [.empty]
  | text chars => some [(Start.ofText chars).take Starts.lengthLimit]
  | set members _ => .ofSpans members
  | look _ => some [.empty]
  | seq parts => startsBefore (some [.empty]) parts
  | alt branches => startsAmong (some []) branches
  | repeated least most greedy body => .times least most greedy (starts body)
  | group body => starts body

def startsBefore (before : Starts) : List Simplified → Starts
  | [] => before
  | part :: rest =>
    if before.settled then before else startsBefore (before.followedBy (starts part)) rest

def startsAmong (before : Starts) : List Simplified → Starts
  | [] => before
  | branch :: rest =>
    if before.isNone then none else startsAmong (before.or (starts branch)) rest

end

mutual

def isPlain : Simplified → Bool
  | look _ => false
  | seq parts => allPlain parts
  | alt branches => allPlain branches
  | repeated _ _ _ body => isPlain body
  | group _ => false
  | _ => true

def allPlain : List Simplified → Bool
  | [] => true
  | part :: rest => isPlain part && allPlain rest

end

end Simplified

def commonStart : List Nat → List Nat → List Nat
  | a :: as, b :: bs => if a = b then a :: commonStart as bs else []
  | _, _ => []

def commonBytes : List Start → List Nat
  | [] => []
  | start :: rest => rest.foldl (fun common start => commonStart common start.bytes) start.bytes

-- Whether texts have so few of these bytes that it is quick to look for one.
def isRareByte (byte : Nat) : Bool :=
  byte < 0x80 && !"\n\r (),-./0129:_abcdefghilmnoprstuvxy|".contains (Char.ofNat byte)

-- Lengths to which starts are cut as long as there are more of them than what comes second.
def shortenings : List (Nat × Nat) := [(5, 10), (4, 10), (3, 64), (2, 64), (1, 10)]

def shortened : List (Nat × Nat) → List Start → List Start
  | [], starts => starts
  | (length, count) :: rest, starts =>
    if starts.length ≤ count then starts
    else shortened rest (leaveOutShadowed (starts.map (.take length)))

-- Sometimes it is quicker to search for something shorter than the texts, and to look further wherever
-- that is found. Then the texts are not what is searched for.
def searchedWhole (found : Nat) (starts : List Start) : Bool :=
  let common := commonBytes starts
  if 1 < found && common.length ≤ 3 && (common.head?.map isRareByte).getD false then
    starts.all (·.bytes.length ≤ 1)
  else if 4 < common.length || (1 < common.length && 16 < starts.length) then starts.length = 1
  else
    let shortened := shortened shortenings starts
    shortened.all (·.text.isSome) || shortened.any (·.bytes.length ≤ 2) || 64 < shortened.length

def Simplified.texts? (pattern : Simplified) : Option (List (List Char)) := do
  let starts ← pattern.starts
  let kept := leaveOutShadowed starts
  let texts ← kept.mapM (·.text)
  if pattern.isPlain && !texts.isEmpty && !texts.contains [] &&
      searchedWhole starts.length kept then
    return texts
  else none

-- So many alternatives all of which are texts are always searched for as they are.
def manyTexts : Nat := 3000

def Simplified.isManyTexts : Simplified → Bool
  | .alt branches => manyTexts ≤ branches.length && (Footprint.texts? branches).isSome
  | _ => false

def Expr.ofChars (chars : List Char) : Expr :=
  chars.foldr (fun c rest => .seq (.one (.single c)) rest) .empty

def Expr.ofTexts : List (List Char) → Expr
  | [] => .one .empty
  | [text] => ofChars text
  | text :: rest => .alt (ofChars text) (ofTexts rest)

-- A pattern that matches a few texts and nothing else can be searched for as these texts. It needs no
-- automaton then, and may be of any size.
def Expr.searched? (expr : Expr) : Option Expr :=
  if expr.isSmall then some expr
  else
    let pattern := expr.simplify
    if pattern.fits || pattern.isManyTexts then some expr else pattern.texts?.map ofTexts

end TextFeatures.Pattern
