import TextFeatures.Features
import TextFeatures.Json.Decode

namespace TextFeatures

namespace Json

def reals (values : List Float) : Json := .array (values.map real)

def naturals (values : List Nat) : Json := .array (values.map natural)

def ofAxes (axes : List Nat) (values : List Float) : Json := .record [
  ("v", natural 1), ("dim", naturals axes), ("data", reals values)]

-- The members may come in any order, and even more than once if each of them can be read; the last one
-- counts. All of them have to tell as many axes. A member of another name is refused.
def axisMember? (key : String) (members : List (Option String × Json)) (value? : Json → Option α) :
    Option α := do
  let values ← (members.filter fun member => member.1 = some key).mapM fun member =>
    value? member.2
  values.getLast?

def version? (value : Json) : Option Unit := if value.natural? = some 1 then some () else none

def lengths? (axisCount : Nat) (value : Json) : Option (List Nat) := do
  let lengths ← value.list? natural?
  if lengths.length = axisCount then some lengths else none

def axes? (axisCount : Nat) : Json → Option (List Nat × List Float)
  | array [version, axes, values] => do
    version? version
    return (← axes.lengths? axisCount, ← values.list? real?)
  | object members =>
    if members.all fun member => member.1 ∈ [some "v", some "dim", some "data"] then do
      axisMember? "v" members version?
      return (← axisMember? "dim" members (lengths? axisCount),
        ← axisMember? "data" members (list? real?))
    else none
  | _ => none

-- No array may have more places than this, axes of length zero left out.
def placeLimit : Nat := 0x8000000000000000

end Json

namespace Features

def denseJson? (value : Json) : Option (Features Float) :=
  match value.axes? 1 with
  | some ([length], values) => if values.length = length then some (.dense values) else none
  | _ => none

def sequenceJson? (value : Json) : Option (Features Float) :=
  match value.axes? 2 with
  | some ([rowCount, columnCount], values) =>
    if values.length = rowCount * columnCount ∧ rowCount < Json.placeLimit ∧
        columnCount < Json.placeLimit then
      some (.sequence (.ofValues rowCount columnCount values))
    else none
  | _ => none

def sparseJson (matrix : SparseMatrix Float) : Json := .record [
  ("n_cols", .natural matrix.columnCount),
  ("indptr", .naturals matrix.rowStarts),
  ("indices", .naturals matrix.columns),
  ("data", .reals matrix.values)]

def sparseJson? (value : Json) : Option (Features Float) :=
  match value.fields? ["n_cols", "indptr", "indices", "data"] with
  | some [columnCount, rowStarts, columns, values] => do
    return .sparse {
      columnCount := ← Json.required? Json.natural? columnCount
      rowStarts := ← Json.required? (Json.list? Json.natural?) rowStarts
      columns := ← Json.required? (Json.list? Json.natural?) columns
      values := ← Json.required? (Json.list? Json.real?) values }
  | _ => none

def toJson : Features Float → Json
  | dense values => .record [("Dense", .ofAxes [values.length] values)]
  | sequence rows =>
    .record [("Sequence", .ofAxes [rows.rowCount, rows.columnCount] rows.rows.flatten)]
  | sparse matrix => .record [("Sparse", sparseJson matrix)]

def ofJson? (value : Json) : Option (Features Float) :=
  match value.tagged? with
  | some ("Dense", contents) => denseJson? contents
  | some ("Sequence", contents) => sequenceJson? contents
  | some ("Sparse", contents) => sparseJson? contents
  | _ => none

end Features

end TextFeatures
