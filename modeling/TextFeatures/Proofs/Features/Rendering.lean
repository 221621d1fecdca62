import TextFeatures.Features.Json
import TextFeatures.Proofs.Json.Decoding

namespace TextFeatures

namespace Json

variable {α : Type} {name : String} {value : Json} {members : List (String × Json)} {numbers axes : List Nat}
  {values : List Float} {value? : Json → Option α} {a : α}

theorem list?_naturals (small : ∀ n ∈ numbers, n < Numeral.wordLimit) :
    (naturals numbers).list? natural? = some numbers :=
  list?_list fun n among => natural?_natural (small n among)

theorem list?_reals (readBack : ∀ x ∈ values, ReadsBack x) : (reals values).list? real? = some values :=
  list?_list fun x among => real?_real (readBack x among)

theorem wellFormed_naturals : (naturals numbers).WellFormed := wellFormed_list fun n _ => wellFormed_natural n

theorem wellFormed_reals : (reals values).WellFormed := wellFormed_list fun x _ => wellFormed_real x

theorem wellFormed_ofAxes : (ofAxes axes values).WellFormed := by
  refine wellFormed_record ?_
  simp only [List.forall_mem_cons, List.not_mem_nil, false_imp_iff, implies_true, and_true]
  exact ⟨wellFormed_natural 1, wellFormed_naturals, wellFormed_reals⟩

theorem axisMember?_record (distinct : (members.map Prod.fst).Nodup) (among : (name, value) ∈ members)
    (read : value? value = some a) :
    axisMember? name (members.map fun member => (some member.1, member.2)) value? = some a := by
  rw [axisMember?, filter_named distinct among, List.mapM_cons, read]
  rfl

theorem axes?_ofAxes (small : ∀ length ∈ axes, length < Numeral.wordLimit) (readBack : ∀ x ∈ values, ReadsBack x) :
    (ofAxes axes values).axes? axes.length = some (axes, values) := by
  have one : 1 < Numeral.wordLimit := by decide
  have version : version? (natural 1) = some () := by rw [version?, natural?_natural one, if_pos rfl]
  have lengths : (naturals axes).lengths? axes.length = some axes := by
    rw [lengths?, list?_naturals small]
    exact if_pos rfl
  have apart : ["v", "dim", "data"].Nodup := by decide
  have distinct : ([("v", natural 1), ("dim", naturals axes), ("data", reals values)].map Prod.fst).Nodup := apart
  have known : ([("v", natural 1), ("dim", naturals axes), ("data", reals values)].map fun member =>
      (some member.1, member.2)).all (fun member => member.1 ∈ [some "v", some "dim", some "data"]) = true := by
    simp
  rw [ofAxes, record, axes?, if_pos known, axisMember?_record distinct (by simp) version,
    axisMember?_record distinct (by simp) lengths, axisMember?_record distinct (by simp) (list?_reals readBack)]
  rfl

end Json

theorem DenseMatrix.piecesOf_flatten {α : Type} {width : Nat} {rows : List (List α)}
    (even : ∀ row ∈ rows, row.length = width) : piecesOf width rows.length rows.flatten = rows := by
  induction rows with
  | nil => rfl
  | cons row rest ih =>
    have first : row.length = width := even row List.mem_cons_self
    rw [List.length_cons, piecesOf, List.flatten_cons, List.take_left' first, List.drop_left' first,
      ih fun later among => even later (List.mem_cons_of_mem _ among)]

-- The counts of what is held fit a word of the machine, and every double is printed and read as the same double.

structure DenseMatrix.Printable (matrix : DenseMatrix Float) : Prop where
  even : ∀ row ∈ matrix.rows, row.length = matrix.columnCount
  rowCount : matrix.rowCount < Json.placeLimit
  columnCount : matrix.columnCount < Json.placeLimit
  values : ∀ row ∈ matrix.rows, ∀ x ∈ row, Json.ReadsBack x

structure SparseMatrix.Printable (matrix : SparseMatrix Float) : Prop where
  columnCount : matrix.columnCount < Numeral.wordLimit
  rowStarts : ∀ start ∈ matrix.rowStarts, start < Numeral.wordLimit
  columns : ∀ column ∈ matrix.columns, column < Numeral.wordLimit
  values : ∀ x ∈ matrix.values, Json.ReadsBack x

namespace Features

variable {values : List Float} {features : Features Float}

def Printable : Features Float → Prop
  | dense values => values.length < Numeral.wordLimit ∧ ∀ x ∈ values, Json.ReadsBack x
  | sequence matrix => matrix.Printable
  | sparse matrix => matrix.Printable

theorem denseJson?_ofAxes (short : values.length < Numeral.wordLimit) (readBack : ∀ x ∈ values, Json.ReadsBack x) :
    denseJson? (.ofAxes [values.length] values) = some (.dense values) := by
  have read : (Json.ofAxes [values.length] values).axes? 1 = some ([values.length], values) :=
    Json.axes?_ofAxes (List.forall_mem_singleton.mpr short) readBack
  simp only [denseJson?, read, if_true]

theorem sequenceJson?_ofAxes {matrix : DenseMatrix Float} (printable : matrix.Printable) :
    sequenceJson? (.ofAxes [matrix.rowCount, matrix.columnCount] matrix.rows.flatten) = some (.sequence matrix) := by
  have narrow {n : Nat} (few : n < Json.placeLimit) : n < Numeral.wordLimit := Nat.lt_of_lt_of_le few (by decide)
  have small : ∀ length ∈ [matrix.rowCount, matrix.columnCount], length < Numeral.wordLimit := by
    simp only [List.forall_mem_cons, List.not_mem_nil, false_imp_iff, implies_true, and_true]
    exact ⟨narrow printable.rowCount, narrow printable.columnCount⟩
  have readBack : ∀ x ∈ matrix.rows.flatten, Json.ReadsBack x := by
    intro x among
    obtain ⟨row, there, inside⟩ := List.mem_flatten.mp among
    exact printable.values row there x inside
  have read : (Json.ofAxes [matrix.rowCount, matrix.columnCount] matrix.rows.flatten).axes? 2 =
      some ([matrix.rowCount, matrix.columnCount], matrix.rows.flatten) := Json.axes?_ofAxes small readBack
  have places : matrix.rows.flatten.length = matrix.rowCount * matrix.columnCount := by
    rw [List.length_flatten, List.map_congr_left printable.even, List.map_const', List.sum_replicate_nat]
    rfl
  simp only [sequenceJson?, read]
  rw [if_pos ⟨places, printable.rowCount, printable.columnCount⟩, DenseMatrix.ofValues, DenseMatrix.rowCount,
    DenseMatrix.piecesOf_flatten printable.even]

theorem sparseJson?_sparseJson {matrix : SparseMatrix Float} (printable : matrix.Printable) :
    sparseJson? (sparseJson matrix) = some (.sparse matrix) := by
  have distinct : ["n_cols", "indptr", "indices", "data"].Nodup := by decide
  have fields : (sparseJson matrix).fields? ["n_cols", "indptr", "indices", "data"] = some [
      some (.natural matrix.columnCount), some (.naturals matrix.rowStarts), some (.naturals matrix.columns),
      some (.reals matrix.values)] := Json.fields?_record distinct
  simp only [sparseJson?, fields, Json.required?, Json.natural?_natural printable.columnCount,
    Json.list?_naturals printable.rowStarts, Json.list?_naturals printable.columns, Json.list?_reals printable.values,
    Option.bind_eq_bind, Option.bind_some, Option.pure_def]

theorem ofJson?_toJson (printable : features.Printable) : ofJson? features.toJson = some features := by
  cases features with
  | dense values => exact denseJson?_ofAxes printable.1 printable.2
  | sequence matrix => exact sequenceJson?_ofAxes printable
  | sparse matrix => exact sparseJson?_sparseJson printable

theorem wellFormed_toJson (features : Features Float) : features.toJson.WellFormed := by
  cases features with
  | dense values => exact Json.wellFormed_record (List.forall_mem_singleton.mpr Json.wellFormed_ofAxes)
  | sequence matrix => exact Json.wellFormed_record (List.forall_mem_singleton.mpr Json.wellFormed_ofAxes)
  | sparse matrix =>
    refine Json.wellFormed_record (List.forall_mem_singleton.mpr (Json.wellFormed_record ?_))
    simp only [List.forall_mem_cons, List.not_mem_nil, false_imp_iff, implies_true, and_true]
    exact ⟨Json.wellFormed_natural _, Json.wellFormed_naturals, Json.wellFormed_naturals, Json.wellFormed_reals⟩

end Features

end TextFeatures
