namespace TextFeatures

structure DenseMatrix (α : Type) where
  columnCount : Nat
  rows : List (List α)
deriving DecidableEq, Repr

namespace DenseMatrix

def rowCount (matrix : DenseMatrix α) : Nat := matrix.rows.length

def map (f : α → β) (matrix : DenseMatrix α) : DenseMatrix β :=
  ⟨matrix.columnCount, matrix.rows.map (List.map f)⟩

-- The first `count` pieces of `width` values each, of a list that holds them one behind another.
def piecesOf (width : Nat) : Nat → List α → List (List α)
  | 0, _ => []
  | count + 1, values => values.take width :: piecesOf width count (values.drop width)

def ofValues (rowCount columnCount : Nat) (values : List α) : DenseMatrix α :=
  ⟨columnCount, piecesOf columnCount rowCount values⟩

def pad (filler : α) (rowCount : Nat) (matrix : DenseMatrix α) : DenseMatrix α :=
  { matrix with
    rows := matrix.rows ++
      List.replicate (rowCount - matrix.rowCount) (List.replicate matrix.columnCount filler) }

end DenseMatrix

end TextFeatures
