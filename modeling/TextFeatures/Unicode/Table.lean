import TextFeatures.Unicode.Spans

namespace TextFeatures.Unicode

structure Entry (α : Type) where
  first : Nat
  last : Nat
  value : α

-- Rows keep their bounds beside their entries: a look-up reads the entries of one row only, so a
-- closed look-up unfolds one line of a table and not the whole standard.
structure Row (α : Type) where
  first : Nat
  last : Nat
  entries : List (Entry α)

-- Rows in increasing order, no two of which overlap.
abbrev Table (α : Type) := List (Row α)

def Table.find? (table : Table α) (code : Nat) : Option α :=
  match List.find? (fun row : Row α => row.first ≤ code && code ≤ row.last) table with
  | none => none
  | some row =>
    (row.entries.find? fun entry => entry.first ≤ code && code ≤ entry.last).map Entry.value

def Table.spansWhere (table : Table α) (wanted : α → Bool) : Spans :=
  Spans.ofPairs (table.flatMap fun row =>
    (row.entries.filter fun entry => wanted entry.value).map fun entry => (entry.first, entry.last))

abbrev CodeSet := Table Unit

def CodeSet.contains (set : CodeSet) (c : Char) : Bool := (set.find? c.toNat).isSome

def CodeSet.spans (set : CodeSet) : Spans := set.spansWhere fun _ => true

def pieces (separator : Char) : List Char → List (List Char)
  | [] => [[]]
  | c :: rest =>
    if c = separator then [] :: pieces separator rest
    else match pieces separator rest with
      | [] => [[c]]
      | piece :: more => (c :: piece) :: more

def hexDigit (c : Char) : Nat :=
  if '0' ≤ c && c ≤ '9' then c.toNat - '0'.toNat else c.toNat - 'a'.toNat + 10

def readHex (digits : List Char) : Nat :=
  digits.foldl (fun n c => 16 * n + hexDigit c) 0

def readDecimal (digits : List Char) : Nat :=
  digits.foldl (fun n c => 10 * n + hexDigit c) 0

-- Reads `41-5a:value`, where the last code point may be left out if it is the first.
def readEntry (value : List Char → α) (text : List Char) : Entry α :=
  let span := text.takeWhile (· ≠ ':')
  let first := readHex (span.takeWhile (· ≠ '-'))
  let last := (span.dropWhile (· ≠ '-')).tail
  ⟨first, if last.isEmpty then first else readHex last, value (text.dropWhile (· ≠ ':')).tail⟩

def row (value : List Char → α) (first last : Nat) (text : String) : Row α :=
  ⟨first, last, (pieces ' ' text.toList).map (readEntry value)⟩

def setRow : Nat → Nat → String → Row Unit := row fun _ => ()

-- A row of entries such as `c0:41.300`, which send a code point to a sequence.
def mappingRow : Nat → Nat → String → Row (List Char) :=
  row fun text => (pieces '.' text).map fun code => Char.ofNat (readHex code)

def namesRow : Nat → Nat → String → Row (List String) :=
  row fun text => (pieces '.' text).map String.ofList

def classRow : Nat → Nat → String → Row Nat := row readDecimal

end TextFeatures.Unicode
