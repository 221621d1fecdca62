import Mathlib.Algebra.BigOperators.Group.List.Lemmas
import TextFeatures.Matrix.Sparse
import TextFeatures.Proofs.Dictionary
import TextFeatures.Proofs.Results

namespace TextFeatures.SparseMatrix

variable {α β : Type} {columnCount : Nat} {stored : List (List (Nat × α))} {matrix : SparseMatrix α}

def ofStored (columnCount : Nat) (stored : List (List (Nat × α))) : SparseMatrix α where
  columnCount := columnCount
  rowStarts := startsFrom 0 (stored.map List.length)
  columns := stored.flatten.map Prod.fst
  values := stored.flatten.map Prod.snd

@[simp] theorem columnCount_ofStored : (ofStored columnCount stored).columnCount = columnCount := rfl

theorem length_columns_ofStored : (ofStored columnCount stored).columns.length = stored.flatten.length :=
  List.length_map _

theorem length_values_ofStored : (ofStored columnCount stored).values.length = stored.flatten.length :=
  List.length_map _

theorem zip_ofStored : (ofStored columnCount stored).columns.zip (ofStored columnCount stored).values = stored.flatten :=
  (List.zip_of_prod rfl rfl).symm

theorem ofEntries_eq {entries : List (Nat × α)} : ofEntries columnCount entries = ofStored columnCount [entries] := by
  simp [ofEntries, ofStored, startsFrom]

section OfRows
variable [BEq α] [OfNat α 0] {rows : List (Dictionary Nat α)}

def storedEntries (row : Dictionary Nat α) : List (Nat × α) := row.entries.filter (·.2 != 0)

omit [BEq α] [OfNat α 0] in
theorem columnOutside?_eq_none_iff : columnOutside? columnCount rows = none ↔
    ∀ row ∈ rows, ∀ entry ∈ row.entries, entry.1 < columnCount := by
  simp only [columnOutside?, List.find?_eq_none, List.mem_flatMap, Dictionary.keys, List.mem_map,
    decide_eq_true_eq, Nat.not_le]
  constructor
  · exact fun inside row member entry among => inside entry.1 ⟨row, member, entry, among, rfl⟩
  · rintro inside _ ⟨row, member, entry, among, rfl⟩
    exact inside row member entry among

theorem ofRows_eq_ok_iff : ofRows columnCount rows = .ok matrix ↔
    (∀ row ∈ rows, ∀ entry ∈ row.entries, entry.1 < columnCount) ∧
      matrix = ofStored columnCount (rows.map storedEntries) := by
  rw [← columnOutside?_eq_none_iff]
  unfold ofRows
  split
  · rename_i outside
    simp [outside]
  · rename_i inside
    simp only [inside, true_and]
    exact ⟨fun built => (Except.ok.inj built).symm, fun built => built ▸ rfl⟩

end OfRows

theorem startsFrom_eq_cons (start : Nat) (lengths : List Nat) :
    startsFrom start lengths = start :: (startsFrom start lengths).tail := by
  cases lengths <;> rfl

-- The rows that are left to be cut off are the entries behind those of the rows before.
theorem rowsFrom_startsFrom {before : List (Nat × α)} (even : matrix.columns.length = matrix.values.length)
    (split : matrix.columns.zip matrix.values = before ++ stored.flatten) :
    matrix.rowsFrom before.length (startsFrom before.length (stored.map List.length)).tail = .ok stored := by
  induction stored generalizing before with
  | nil => rfl
  | cons row rest ih =>
    have count := congrArg List.length split
    simp only [List.length_zip, even, Nat.min_self, List.length_append, List.flatten_cons] at count
    have cut : matrix.entriesBetween before.length (before.length + row.length) = .ok row := by
      rw [entriesBetween, if_pos (by omega), split]
      simp [List.take_append, List.take_of_length_le]
    have splitLater : matrix.columns.zip matrix.values = (before ++ row) ++ rest.flatten := by simpa using split
    have later := ih splitLater
    rw [List.length_append] at later
    rw [List.map_cons, startsFrom, List.tail_cons, startsFrom_eq_cons, rowsFrom, cut]
    rw [ok_bind, later, ok_bind, pure_eq_ok]

@[simp] theorem rows_ofStored : (ofStored columnCount stored).rows = .ok stored := by
  have even : (ofStored columnCount stored).columns.length = (ofStored columnCount stored).values.length :=
    length_columns_ofStored.trans length_values_ofStored.symm
  have split : (ofStored columnCount stored).columns.zip (ofStored columnCount stored).values = [] ++ stored.flatten :=
    zip_ofStored
  have cut := rowsFrom_startsFrom even split
  unfold rows
  rw [show (ofStored columnCount stored).rowStarts = startsFrom 0 (stored.map List.length) from rfl,
    startsFrom_eq_cons]
  exact cut

theorem map_ofStored (f : α → β) : (ofStored columnCount stored).map f =
    ofStored columnCount (stored.map (List.map (Prod.map id f))) := by
  simp [map, ofStored, Function.comp_def, List.map_flatten]

@[simp] theorem toDense_ofStored [OfNat α 0] :
    (ofStored columnCount stored).toDense = .ok ⟨columnCount, stored.map (denseRow columnCount)⟩ := by
  simp [toDense]

theorem mapM_toDense_ofStored [OfNat α 0] {rowLists : List (List (List (Nat × α)))} :
    (rowLists.map (ofStored columnCount)).mapM toDense =
      .ok (rowLists.map fun rows => ⟨columnCount, rows.map (denseRow columnCount)⟩) := by
  rw [mapM_eq_ok_iff, List.forall₂_map_left_iff, List.forall₂_map_right_iff, List.forall₂_same]
  exact fun rows _ => toDense_ofStored

section Cuts
variable {r start : Nat} {lengths : List Nat}

def storedBefore (stored : List (List (Nat × α))) (r : Nat) : Nat := (stored.take r).flatten.length

theorem getElem?_startsFrom (inside : r ≤ stored.length) :
    (startsFrom start (stored.map List.length))[r]? = some (start + storedBefore stored r) := by
  induction stored generalizing start r with
  | nil =>
    obtain rfl : r = 0 := Nat.le_zero.mp inside
    rfl
  | cons row rest ih =>
    cases r with
    | zero => rfl
    | succ r =>
      rw [List.map_cons, startsFrom, List.getElem?_cons_succ, ih (Nat.le_of_succ_le_succ inside), storedBefore,
        storedBefore, List.take_succ_cons, List.flatten_cons, List.length_append, Nat.add_assoc]

theorem length_startsFrom : (startsFrom start lengths).length = lengths.length + 1 := by
  induction lengths generalizing start with
  | nil => rfl
  | cons length rest ih => rw [startsFrom, List.length_cons, ih, List.length_cons]

theorem rowStarts_ofStored (inside : r ≤ stored.length) :
    (ofStored columnCount stored).rowStarts[r]? = some (storedBefore stored r) := by
  rw [ofStored, getElem?_startsFrom inside, Nat.zero_add]

theorem length_rowStarts_ofStored : (ofStored columnCount stored).rowStarts.length = stored.length + 1 := by
  rw [ofStored, length_startsFrom, List.length_map]

theorem storedBefore_le_succ : storedBefore stored r ≤ storedBefore stored (r + 1) :=
  (List.Sublist.flatten (List.take_sublist_take_left (Nat.le_succ r))).length_le

theorem storedBefore_le : storedBefore stored r ≤ stored.flatten.length :=
  (List.Sublist.flatten (List.take_sublist r stored)).length_le

theorem cut_flatten (inside : r < stored.length) :
    (stored.flatten.take (storedBefore stored (r + 1))).drop (storedBefore stored r) = stored[r] := by
  rw [storedBefore, storedBefore, List.length_flatten, List.length_flatten, List.map_take, List.map_take]
  exact List.drop_take_succ_flatten_eq_getElem stored r inside

theorem row_ofStored : (ofStored columnCount stored).row r = .ok (stored[r]?.getD []) := by
  have some : (ofStored columnCount stored).rowStarts.isEmpty = false := by
    rw [ofStored, startsFrom_eq_cons]
    rfl
  rw [row, if_neg (by simp [some])]
  by_cases inside : r < stored.length
  · rw [rowStarts_ofStored (Nat.le_of_lt inside), rowStarts_ofStored inside, List.getElem?_eq_getElem inside]
    dsimp only
    rw [entriesBetween, length_columns_ofStored, length_values_ofStored,
      if_pos ⟨storedBefore_le_succ, storedBefore_le, storedBefore_le⟩, zip_ofStored, cut_flatten inside]
    rfl
  · have outside : (ofStored columnCount stored).rowStarts[r + 1]? = none := by
      rw [List.getElem?_eq_none_iff, length_rowStarts_ofStored]
      omega
    rw [outside, List.getElem?_eq_none (Nat.le_of_not_lt inside)]
    cases (ofStored columnCount stored).rowStarts[r]? <;> rfl

theorem row_of_getElem? {row : List (Nat × α)} (there : stored[r]? = some row) :
    (ofStored columnCount stored).row r = .ok row := by
  rw [row_ofStored, there, Option.getD_some]

theorem get_of_row [OfNat α 0] {row : List (Nat × α)} {column : Nat} (given : matrix.row r = .ok row) :
    matrix.get r column = .ok (valueAt row column) := by
  rw [get, given]
  rfl

theorem get_ofStored [OfNat α 0] {column : Nat} :
    (ofStored columnCount stored).get r column = .ok (valueAt (stored[r]?.getD []) column) := by
  rw [get, row_ofStored]
  rfl

def column [OfNat α 0] (matrix : SparseMatrix α) (c : Nat) : Except Fault (List α) :=
  (List.range matrix.rowCount).mapM fun r => matrix.get r c

theorem rowCount_ofStored : (ofStored columnCount stored).rowCount = stored.length := by
  rw [rowCount, length_rowStarts_ofStored, Nat.add_sub_cancel]

theorem column_ofStored [OfNat α 0] {c : Nat} :
    (ofStored columnCount stored).column c = .ok (stored.map (valueAt · c)) := by
  have each : ∀ r ∈ List.range stored.length,
      (ofStored columnCount stored).get r c = .ok (valueAt (stored[r]?.getD []) c) := fun _ _ => get_ofStored
  rw [column, rowCount_ofStored, mapM_of_each each]
  refine congrArg Except.ok (List.ext_getElem? fun r => ?_)
  by_cases inside : r < stored.length
  · simp [inside]
  · simp [inside]

end Cuts

section Lookup
variable [BEq α] [OfNat α 0] {row : Dictionary Nat α} {column : Nat}

-- How a value is given back: a zero as zero, whether it had a minus sign or not.
def settled (value : α) : α := if value == 0 then 0 else value

theorem settled_zero : settled (0 : α) = 0 := by
  unfold settled
  split <;> rfl

theorem valueAt_storedEntries_eq : valueAt (storedEntries row) column = settled ((row.get? column).getD 0) := by
  obtain ⟨entries, ordered⟩ := row
  unfold valueAt storedEntries Dictionary.get?
  induction entries with
  | nil => exact settled_zero.symm
  | cons entry rest ih =>
    obtain ⟨place, value⟩ := entry
    obtain ⟨above, later⟩ := List.pairwise_cons.mp ordered
    have others := ih later
    rw [Dictionary.lookup_cons_eq]
    cases zero : value == 0 with
    | true =>
      rw [List.filter_cons_of_neg (by simp [bne, zero]), others]
      split
      · rename_i same
        subst same
        rw [Dictionary.lookup_eq_none_of_lt above, Option.getD_none, settled_zero, Option.getD_some, settled,
          if_pos zero]
      · rfl
    | false =>
      rw [List.filter_cons_of_pos (by simp [bne, zero]), Dictionary.lookup_cons_eq]
      split
      · rw [Option.getD_some, settled, if_neg (by simp [zero])]
      · exact others

end Lookup

theorem valueAt_storedEntries {row : Dictionary Nat Nat} {column : Nat} :
    valueAt (storedEntries row) column = (row.get? column).getD 0 := by
  have same (count : Nat) : settled count = count := by
    unfold settled
    split
    · rename_i zero
      exact (beq_iff_eq.mp zero).symm
    · rfl
  rw [valueAt_storedEntries_eq, same]

end TextFeatures.SparseMatrix
