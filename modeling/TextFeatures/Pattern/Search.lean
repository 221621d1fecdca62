import TextFeatures.NumberSet
import TextFeatures.Pattern.Program

namespace TextFeatures.Pattern

-- A place in a text: how many characters are before it, the last of them, and those after it.
structure Cursor where
  index : Nat
  before : Option Char
  rest : List Char
deriving DecidableEq, Repr

namespace Cursor

def start (text : List Char) : Cursor := ⟨0, none, text⟩

def step (cursor : Cursor) (c : Char) (rest : List Char) : Cursor :=
  ⟨cursor.index + 1, some c, rest⟩

def beforeIs (accepts : Char → Bool) (cursor : Cursor) : Bool := cursor.before.any accepts

def afterIs (accepts : Char → Bool) (cursor : Cursor) : Bool := cursor.rest.head?.any accepts

end Cursor

def Look.holds : Look → Cursor → Bool
  | textStart, c => c.before.isNone
  | textEnd, c => c.rest.isEmpty
  | lineStart, c => c.before.isNone || c.beforeIs (· = '\n')
  | lineEnd, c => c.rest.isEmpty || c.afterIs (· = '\n')
  | crlfStart, c =>
    c.before.isNone || c.beforeIs (· = '\n') || (c.beforeIs (· = '\r') && !c.afterIs (· = '\n'))
  | crlfEnd, c =>
    c.rest.isEmpty || c.afterIs (· = '\r') || (c.afterIs (· = '\n') && !c.beforeIs (· = '\r'))
  | wordBoundary word, c => c.beforeIs word.contains != c.afterIs word.contains
  | notWordBoundary word, c => c.beforeIs word.contains == c.afterIs word.contains
  | wordStart word, c => !c.beforeIs word.contains && c.afterIs word.contains
  | wordEnd word, c => c.beforeIs word.contains && !c.afterIs word.contains
  | wordStartHalf word, c => !c.beforeIs word.contains
  | wordEndHalf word, c => !c.afterIs word.contains

structure Thread where
  step : Nat
  cursor : Cursor
deriving DecidableEq, Repr

-- Where a step leads, in the order of preference.
def Instruction.follow : Instruction → Cursor → List Thread
  | accept, _ => []
  | one accepted next, c =>
    match c.rest with
    | [] => []
    | x :: rest => if accepted.contains x then [⟨next, c.step x rest⟩] else []
  | look l next, c => if l.holds c then [⟨next, c⟩] else []
  | choose preferred other, c => [⟨preferred, c⟩, ⟨other, c⟩]

namespace Program

def visit (program : Program) (thread : Thread) : Nat :=
  thread.cursor.index * program.steps.size + thread.step

-- The threads wait in the order of preference. A step that was taken at a place before is not taken
-- there again: what it leads to has been tried already, or is being tried. So no text makes the
-- search longer than the program times the text.
def explore (program : Program) : Nat → List Thread → NumberSet → Option Cursor × NumberSet
  | 0, _, visited => (none, visited)
  | _ + 1, [], visited => (none, visited)
  | fuel + 1, thread :: waiting, visited =>
    if visited.contains (program.visit thread) then program.explore fuel waiting visited
    else
      let visited := visited.insert (program.visit thread)
      match program.steps[thread.step]? with
      | none => program.explore fuel waiting visited
      | some .accept => (some thread.cursor, visited)
      | some step => program.explore fuel (step.follow thread.cursor ++ waiting) visited

-- Every step is taken at most once at every place, and leads to two steps at most.
def effort (program : Program) (c : Cursor) : Nat :=
  2 * program.steps.size * (c.rest.length + 1) + 2

def matchAt (program : Program) (c : Cursor) (visited : NumberSet) : Option Cursor × NumberSet :=
  program.explore (program.effort c) [⟨program.start, c⟩] visited

-- What failed from one start fails from a later one too.
def matchFrom (program : Program) (index : Nat) (before : Option Char) (visited : NumberSet) :
    List Char → Option (Cursor × Cursor)
  | [] =>
    let c : Cursor := ⟨index, before, []⟩
    (program.matchAt c visited).1.map fun e => (c, e)
  | x :: rest =>
    let c : Cursor := ⟨index, before, x :: rest⟩
    match program.matchAt c visited with
    | (some e, _) => some (c, e)
    | (none, visited) => program.matchFrom (index + 1) (some x) visited rest

def nextMatch (program : Program) (c : Cursor) : Option (Cursor × Cursor) :=
  program.matchFrom c.index c.before .empty c.rest

end Program

structure Match where
  start : Nat
  stop : Nat
  text : List Char
deriving DecidableEq, Repr

namespace Program

def matchBetween (c e : Cursor) : Match := ⟨c.index, e.index, c.rest.take (e.index - c.index)⟩

-- Matches do not overlap, and an empty match right behind another match does not count.
def matchesFrom (program : Program) : Nat → Bool → Cursor → List Match
  | 0, _, _ => []
  | fuel + 1, emptyAllowed, c =>
    match program.nextMatch c with
    | none => []
    | some (s, e) =>
      if s.index < e.index then matchBetween s e :: program.matchesFrom fuel false e
      else
        let later := match s.rest with
          | [] => []
          | x :: rest => program.matchesFrom fuel true (s.step x rest)
        if emptyAllowed || c.index < s.index then matchBetween s e :: later else later

def findAll (program : Program) (text : List Char) : List Match :=
  program.matchesFrom (text.length + 1) true (Cursor.start text)

end Program

end TextFeatures.Pattern
