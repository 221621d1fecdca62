import TextFeatures.Proofs.Checked.Access
import TextFeatures.Proofs.Featurizer.Counts

namespace TextFeatures.Checked

variable {α β : Type}

section Rows

def rowCount (matrix : SparseMatrix α) : Except Stop Nat := minus matrix.rowStarts.length 1

-- A row that the matrix does not have is cut out of it at zero, and is empty.
def row (matrix : SparseMatrix α) (r : Nat) : Except Stop (List (Nat × α)) := do
  let count ← rowCount matrix
  let start ← if r < count then item matrix.rowStarts r else .ok 0
  let stop ← if r < count then item matrix.rowStarts (r + 1) else .ok 0
  let columns ← slice matrix.columns start stop
  let values ← slice matrix.values start stop
  return columns.zip values

-- Zeros, and the entries written over them one after the other.
def denseRow [OfNat α 0] (width : Nat) (entries : List (Nat × α)) : Except Stop (List α) :=
  entries.foldlM (fun row entry => put row entry.1 entry.2) (List.replicate width 0)

def toDense [OfNat α 0] (matrix : SparseMatrix α) : Except Stop (DenseMatrix α) := do
  let count ← rowCount matrix
  let rows ← (List.range count).mapM fun r => do
    let entries ← row matrix r
    denseRow matrix.columnCount entries
  return ⟨matrix.columnCount, rows⟩

def rowMatrices (matrix : SparseMatrix α) : Except Stop (List (SparseMatrix α)) := do
  let count ← rowCount matrix
  (List.range count).mapM fun r => do
    let entries ← row matrix r
    return .ofEntries matrix.columnCount entries

-- What can be written into a row of a width: every entry has its column, and no two have the same.
structure Storable (width : Nat) (entries : List (Nat × α)) : Prop where
  inside : ∀ entry ∈ entries, entry.1 < width
  apart : entries.Pairwise fun a b => a.1 ≠ b.1

variable {width c r : Nat} {xs : List α} {entries : List (Nat × α)} {stored : List (List (Nat × α))}

theorem rowCount_ofStored : rowCount (.ofStored width stored) = .ok stored.length := by
  rw [rowCount, SparseMatrix.length_rowStarts_ofStored]
  exact minus_eq_ok (Nat.le_add_left 1 _)

theorem slice_flatten (f : Nat × α → β) (inside : r < stored.length) :
    slice (stored.flatten.map f) (SparseMatrix.storedBefore stored r) (SparseMatrix.storedBefore stored (r + 1)) =
      .ok (stored[r].map f) := by
  rw [slice_eq_ok SparseMatrix.storedBefore_le_succ (by rw [List.length_map]; exact SparseMatrix.storedBefore_le),
    ← List.map_take, ← List.map_drop, SparseMatrix.cut_flatten inside]

theorem row_ofStored (inside : r < stored.length) : row (.ofStored width stored) r = .ok stored[r] := by
  have start : (SparseMatrix.ofStored width stored).rowStarts[r]? = some (SparseMatrix.storedBefore stored r) :=
    SparseMatrix.rowStarts_ofStored (Nat.le_of_lt inside)
  have stop : (SparseMatrix.ofStored width stored).rowStarts[r + 1]? = some (SparseMatrix.storedBefore stored (r + 1)) :=
    SparseMatrix.rowStarts_ofStored inside
  have columns := slice_flatten Prod.fst inside
  have values := slice_flatten Prod.snd inside
  simp only [row, rowCount_ofStored, ok_bind, if_pos inside, item_eq_ok start, item_eq_ok stop]
  rw [SparseMatrix.ofStored, columns, ok_bind, values]
  exact congrArg Except.ok (List.zip_of_prod rfl rfl).symm

theorem foldlM_put (inside : ∀ entry ∈ entries, entry.1 < xs.length) :
    entries.foldlM (fun row entry => put row entry.1 entry.2) xs =
      .ok (entries.foldl (fun row entry => row.set entry.1 entry.2) xs) := by
  induction entries generalizing xs with
  | nil => rfl
  | cons entry rest ih =>
    obtain ⟨here, later⟩ := List.forall_mem_cons.mp inside
    rw [List.foldlM_cons, put, if_pos here, ok_bind, ih (by simpa using later), List.foldl_cons]

theorem getElem?_foldl_set (apart : entries.Pairwise fun a b => a.1 ≠ b.1) :
    (entries.foldl (fun row entry => row.set entry.1 entry.2) xs)[c]? =
      xs[c]?.map fun x => (entries.lookup c).getD x := by
  induction entries generalizing xs with
  | nil => simp
  | cons entry rest ih =>
    obtain ⟨column, value⟩ := entry
    obtain ⟨here, later⟩ := List.pairwise_cons.mp apart
    rw [List.foldl_cons, ih later]
    by_cases same : c = column
    · subst same
      have absent : rest.lookup c = none :=
        List.lookup_eq_none_iff.mpr fun other member => by simpa using here other member
      rw [absent, List.lookup_cons_self]
      simp only [List.getElem?_set_self', Option.getD_none, Option.map_id', Option.getD_some]
      rfl
    · have elsewhere : column ≠ c := fun alike => same alike.symm
      rw [List.getElem?_set_ne elsewhere, List.lookup_cons, beq_false_of_ne same]

theorem denseRow_eq [OfNat α 0] (storable : Storable width entries) :
    denseRow width entries = .ok (SparseMatrix.denseRow width entries) := by
  have inside : ∀ entry ∈ entries, entry.1 < (List.replicate width (0 : α)).length := by
    simpa using storable.inside
  rw [denseRow, foldlM_put inside]
  refine congrArg Except.ok (List.ext_getElem? fun c => ?_)
  rw [getElem?_foldl_set storable.apart, SparseMatrix.denseRow, List.getElem?_map, List.getElem?_replicate]
  by_cases there : c < width
  · rw [if_pos there, List.getElem?_range there]
    rfl
  · rw [if_neg there, List.getElem?_eq_none (by simpa using there)]
    rfl

theorem mapM_rows {f : List (Nat × α) → Except Stop β} {g : List (Nat × α) → β}
    (each : ∀ entries ∈ stored, f entries = .ok (g entries)) :
    ((List.range stored.length).mapM fun r => do
      let entries ← row (.ofStored width stored) r
      f entries) = .ok (stored.map g) := by
  have inOrder : stored.map g = (List.range stored.length).map fun r => g (stored[r]?.getD []) := by
    refine List.ext_getElem (by simp) fun r inside _ => ?_
    rw [List.length_map] at inside
    simp [List.getElem?_eq_getElem inside]
  rw [inOrder]
  refine mapM_of_each fun r member => ?_
  have inside := List.mem_range.mp member
  rw [row_ofStored inside, ok_bind, List.getElem?_eq_getElem inside]
  exact each _ (List.getElem_mem inside)

theorem toDense_ofStored [OfNat α 0] (storable : ∀ entries ∈ stored, Storable width entries) :
    toDense (.ofStored width stored) = .ok ⟨width, stored.map (SparseMatrix.denseRow width)⟩ := by
  rw [toDense, rowCount_ofStored, ok_bind, SparseMatrix.columnCount_ofStored,
    mapM_rows fun entries member => denseRow_eq (storable entries member)]
  rfl

theorem mapM_toDense_ofStored [OfNat α 0] {rowLists : List (List (List (Nat × α)))}
    (storable : ∀ stored ∈ rowLists, ∀ entries ∈ stored, Storable width entries) :
    (rowLists.map (SparseMatrix.ofStored width)).mapM toDense =
      .ok (rowLists.map fun stored => ⟨width, stored.map (SparseMatrix.denseRow width)⟩) := by
  rw [mapM_eq_ok_iff, List.forall₂_map_left_iff, List.forall₂_map_right_iff, List.forall₂_same]
  exact fun stored member => toDense_ofStored (storable stored member)

theorem rowMatrices_ofStored :
    rowMatrices (.ofStored width stored) = .ok (stored.map (SparseMatrix.ofEntries width)) := by
  rw [rowMatrices, rowCount_ofStored, ok_bind]
  exact mapM_rows fun entries _ => rfl

end Rows

section Padding

def writeOver (block matrix : DenseMatrix α) : Except Stop (DenseMatrix α) := do
  let behind ← slice block.rows matrix.rowCount block.rowCount
  if matrix.columnCount = block.columnCount then return { block with rows := matrix.rows ++ behind }
  else .error (.broken .shape)

-- All matrices go into blocks of one height, and of the width that the vocabulary tells.
def padAll (width : Nat) (matrices : List (DenseMatrix Int)) : Except Stop (List (DenseMatrix Int)) :=
  let height := (matrices.map DenseMatrix.rowCount).foldl max 0
  matrices.mapM (writeOver ⟨width, List.replicate height (List.replicate width Featurizer.padding)⟩)

variable {width height : Nat} {filler : α} {matrix : DenseMatrix α} {matrices : List (DenseMatrix Int)}

theorem writeOver_eq (wide : matrix.columnCount = width) (low : matrix.rowCount ≤ height) :
    writeOver ⟨width, List.replicate height (List.replicate width filler)⟩ matrix = .ok (matrix.pad filler height) := by
  subst wide
  have behind : slice (List.replicate height (List.replicate matrix.columnCount filler)) matrix.rowCount height =
      .ok (List.replicate (height - matrix.rowCount) (List.replicate matrix.columnCount filler)) := by
    rw [slice_eq_ok low (List.length_replicate ▸ Nat.le_refl _)]
    simp
  simp only [writeOver, DenseMatrix.rowCount, List.length_replicate] at behind ⊢
  rw [behind, ok_bind, if_true]
  rfl

theorem padAll_eq (wide : ∀ matrix ∈ matrices, matrix.columnCount = width) :
    padAll width matrices = .ok (Featurizer.padAll matrices) :=
  mapM_of_each fun matrix member => writeOver_eq (wide matrix member) (le_foldl_max (List.mem_map_of_mem member))

end Padding

end TextFeatures.Checked
