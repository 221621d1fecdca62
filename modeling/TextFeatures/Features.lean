import TextFeatures.Matrix.Sparse

namespace TextFeatures

inductive Features (α : Type) where
  | dense (values : List α)
  | sequence (rows : DenseMatrix α)
  | sparse (rows : SparseMatrix α)
deriving DecidableEq, Repr

namespace Features

def kind : Features α → FeatureKind
  | dense _ => .dense
  | sequence _ => .sequence
  | sparse _ => .sparse

def length : Features α → Nat
  | dense values => values.length
  | sequence rows => rows.columnCount
  | sparse rows => rows.columnCount

def map (f : α → β) : Features α → Features β
  | dense values => dense (values.map f)
  | sequence rows => sequence (rows.map f)
  | sparse rows => sparse (rows.map f)

-- Puts dense features behind dense ones. Other features are neither joined nor lost.
def combine (existing : Option (Features α)) (additional : List α) :
    Except FeatureError (Features α) :=
  match existing with
  | none => .ok (dense additional)
  | some (dense values) => .ok (dense (values ++ additional))
  | some (sequence _) => .error (.combination .sequence)
  | some (sparse _) => .error (.combination .sparse)

end Features

-- In a dense sequence all matrices have the same shape.
inductive Batch (α : Type) where
  | dense (rows : DenseMatrix α)
  | sparse (rows : SparseMatrix α)
  | denseSequence (matrices : List (DenseMatrix α))
  | sparseSequence (matrices : List (SparseMatrix α))
deriving DecidableEq, Repr

namespace Batch

def size : Batch α → Nat
  | dense rows => rows.rowCount
  | sparse rows => rows.rowCount
  | denseSequence matrices => matrices.length
  | sparseSequence matrices => matrices.length

def map (f : α → β) : Batch α → Batch β
  | dense rows => dense (rows.map f)
  | sparse rows => sparse (rows.map f)
  | denseSequence matrices => denseSequence (matrices.map (·.map f))
  | sparseSequence matrices => sparseSequence (matrices.map (·.map f))

def examples : Batch α → Except Fault (List (Features α))
  | dense rows => .ok (rows.rows.map .dense)
  | sparse rows => do
    let entries ← rows.rows
    return entries.map fun row => .sparse (.ofEntries rows.columnCount row)
  | denseSequence matrices => .ok (matrices.map .sequence)
  | sparseSequence matrices => .ok (matrices.map .sparse)

end Batch

end TextFeatures
