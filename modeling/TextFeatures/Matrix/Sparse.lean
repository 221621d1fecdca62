import TextFeatures.Dictionary
import TextFeatures.Error
import TextFeatures.Matrix.Dense

namespace TextFeatures

-- The stored entries of all rows stand one behind another in `columns` and `values`. Those of row `r`
-- start at `rowStarts[r]` and stop at `rowStarts[r + 1]`. A matrix that is read from outside may break
-- this; its rows are looked at with care.
structure SparseMatrix (α : Type) where
  columnCount : Nat
  rowStarts : List Nat
  columns : List Nat
  values : List α
deriving DecidableEq, Repr

namespace SparseMatrix

def empty (columnCount : Nat) : SparseMatrix α := ⟨columnCount, [0], [], []⟩

def rowCount (matrix : SparseMatrix α) : Nat := matrix.rowStarts.length - 1

def storedCount (matrix : SparseMatrix α) : Nat := matrix.values.length

def map (f : α → β) (matrix : SparseMatrix α) : SparseMatrix β :=
  { matrix with values := matrix.values.map f }

-- Where pieces of these lengths start if they stand one behind another, and where the last stops.
def startsFrom (start : Nat) : List Nat → List Nat
  | [] => [start]
  | length :: rest => start :: startsFrom (start + length) rest

def columnOutside? (columnCount : Nat) (rows : List (Dictionary Nat α)) : Option Nat :=
  (rows.flatMap Dictionary.keys).find? (columnCount ≤ ·)

-- A zero is not stored, but its column has to be there.
def ofRows [BEq α] [OfNat α 0] (columnCount : Nat) (rows : List (Dictionary Nat α)) :
    Except FeatureError (SparseMatrix α) :=
  match columnOutside? columnCount rows with
  | some column => .error (.column column columnCount)
  | none =>
    let stored := rows.map fun row => row.entries.filter (·.2 != 0)
    .ok {
      columnCount := columnCount
      rowStarts := startsFrom 0 (stored.map List.length)
      columns := stored.flatten.map Prod.fst
      values := stored.flatten.map Prod.snd }

def entriesBetween (matrix : SparseMatrix α) (start stop : Nat) : Except Fault (List (Nat × α)) :=
  if start ≤ stop ∧ stop ≤ matrix.columns.length ∧ stop ≤ matrix.values.length then
    .ok (((matrix.columns.zip matrix.values).take stop).drop start)
  else .error .rowOutsideData

-- A row that the matrix does not have stores nothing.
def row (matrix : SparseMatrix α) (r : Nat) : Except Fault (List (Nat × α)) :=
  if matrix.rowStarts.isEmpty then .error .rowOutsideData
  else match matrix.rowStarts[r]?, matrix.rowStarts[r + 1]? with
    | some start, some stop => matrix.entriesBetween start stop
    | _, _ => .ok []

def rowsFrom (matrix : SparseMatrix α) (start : Nat) :
    List Nat → Except Fault (List (List (Nat × α)))
  | [] => .ok []
  | stop :: rest => do
    let entries ← matrix.entriesBetween start stop
    let later ← matrix.rowsFrom stop rest
    return entries :: later

def rows (matrix : SparseMatrix α) : Except Fault (List (List (Nat × α))) :=
  match matrix.rowStarts with
  | [] => .error .rowOutsideData
  | start :: rest => matrix.rowsFrom start rest

-- What is not stored is zero.
def valueAt [OfNat α 0] (entries : List (Nat × α)) (column : Nat) : α :=
  (entries.lookup column).getD 0

def get [OfNat α 0] (matrix : SparseMatrix α) (r column : Nat) : Except Fault α := do
  let entries ← matrix.row r
  return valueAt entries column

def ofEntries (columnCount : Nat) (entries : List (Nat × α)) : SparseMatrix α :=
  ⟨columnCount, [0, entries.length], entries.map Prod.fst, entries.map Prod.snd⟩

def rowMatrix (matrix : SparseMatrix α) (r : Nat) : Except Fault (SparseMatrix α) := do
  let entries ← matrix.row r
  return ofEntries matrix.columnCount entries

def denseRow [OfNat α 0] (columnCount : Nat) (entries : List (Nat × α)) : List α :=
  (List.range columnCount).map (valueAt entries)

def toDense [OfNat α 0] (matrix : SparseMatrix α) : Except Fault (DenseMatrix α) := do
  let rows ← matrix.rows
  return ⟨matrix.columnCount, rows.map (denseRow matrix.columnCount)⟩

end SparseMatrix

end TextFeatures
