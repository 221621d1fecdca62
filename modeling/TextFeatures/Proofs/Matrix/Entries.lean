import Mathlib
import TextFeatures.Proofs.Matrix.Orderly

namespace TextFeatures.SparseMatrix

section Entries
variable {α : Type} [BEq α] [OfNat α 0] {width widthToo c r : Nat} {entries : List (Nat × α)}
  {stored storedToo : List (List (Nat × α))} {matrix matrixToo : SparseMatrix α} {rows : List (Dictionary Nat α)}

-- What the rows say of a place: zero where there is no row, or nothing in it.
def entryAt (rows : List (Dictionary Nat α)) (r c : Nat) : α := (rows[r]?.bind (·.get? c)).getD 0

-- A matrix that has these rows, however it is looked at.
structure Represents (matrix : SparseMatrix α) (columnCount : Nat) (rows : List (Dictionary Nat α)) : Prop where
  orderly : matrix.Orderly
  columnCount_eq : matrix.columnCount = columnCount
  rowCount_eq : matrix.rowCount = rows.length
  get_eq : ∀ r c, matrix.get r c = .ok (settled (entryAt rows r c))
  dense : ∃ dense, matrix.toDense = .ok dense ∧ Checked.toDense matrix = .ok dense ∧
    dense.columnCount = columnCount ∧ dense.rowCount = rows.length ∧ (∀ row ∈ dense.rows, row.length = columnCount) ∧
    ∀ r < rows.length, ∀ c < columnCount, dense.rows[r]?.bind (·[c]?) = some (settled (entryAt rows r c))
  single : ∀ r, ∃ single, matrix.rowMatrix r = .ok single ∧ single.Orderly ∧ single.columnCount = columnCount ∧
    single.rowCount = 1 ∧ single.row 0 = matrix.row r
  outside : ∀ r, rows.length ≤ r → matrix.row r = .ok []

theorem settled_beq [PartialEquivBEq α] {value : α} (number : (value == value) = true) :
    (settled value == value) = true := by
  unfold settled
  split
  · rename_i zero
    exact BEq.symm zero
  · exact number

theorem Sound.storable (sound : Sound width entries) : Checked.Storable width entries := by
  refine ⟨sound.inside, sound.increasing.imp ?_⟩
  intro one other before
  exact Nat.ne_of_lt before

theorem valueAt_stored (rows : List (Dictionary Nat α)) (r c : Nat) :
    valueAt ((rows.map storedEntries)[r]?.getD []) c = settled (entryAt rows r c) := by
  rw [List.getElem?_map, entryAt]
  cases rows[r]? with
  | none => exact settled_zero.symm
  | some row => exact valueAt_storedEntries_eq

omit [BEq α] in
theorem getElem?_denseRow (inside : c < width) : (denseRow width entries)[c]? = some (valueAt entries c) := by
  rw [denseRow, List.getElem?_map, List.getElem?_range inside]
  rfl

theorem sound_rows (inside : ∀ row ∈ rows, ∀ entry ∈ row.entries, entry.1 < width) :
    ∀ entries ∈ rows.map storedEntries, Sound width entries := by
  intro entries member
  obtain ⟨row, among, rfl⟩ := List.mem_map.mp member
  exact sound_storedEntries (inside row among)

theorem dense_ofStored (inside : ∀ row ∈ rows, ∀ entry ∈ row.entries, entry.1 < width) :
    ∃ dense, (ofStored width (rows.map storedEntries)).toDense = .ok dense ∧
      Checked.toDense (ofStored width (rows.map storedEntries)) = .ok dense ∧
      dense.columnCount = width ∧ dense.rowCount = rows.length ∧ (∀ row ∈ dense.rows, row.length = width) ∧
      ∀ r < rows.length, ∀ c < width, dense.rows[r]?.bind (·[c]?) = some (settled (entryAt rows r c)) := by
  have storable : ∀ entries ∈ rows.map storedEntries, Checked.Storable width entries := by
    intro entries member
    exact (sound_rows inside entries member).storable
  refine ⟨_, toDense_ofStored, Checked.toDense_ofStored storable, rfl, ?_, ?_, ?_⟩
  · rw [DenseMatrix.rowCount, List.length_map, List.length_map]
  · intro row member
    obtain ⟨entries, _, rfl⟩ := List.mem_map.mp member
    rw [denseRow, List.length_map, List.length_range]
  · intro r there c within
    have row : (rows.map storedEntries)[r]? = some (storedEntries rows[r]) := by
      rw [List.getElem?_map, List.getElem?_eq_getElem there]
      rfl
    have value := valueAt_stored rows r c
    rw [row, Option.getD_some] at value
    rw [List.getElem?_map, row, Option.map_some, Option.bind_some, getElem?_denseRow within, value]

theorem single_ofStored (sound : ∀ entries ∈ stored, Sound width entries) (r : Nat) :
    ∃ single, (ofStored width stored).rowMatrix r = .ok single ∧ single.Orderly ∧ single.columnCount = width ∧
      single.rowCount = 1 ∧ single.row 0 = (ofStored width stored).row r := by
  have rowSound : ∀ entries ∈ [stored[r]?.getD []], Sound width entries := by
    intro entries member
    obtain rfl := List.mem_singleton.mp member
    exact sound_getD sound
  refine ⟨ofStored width [stored[r]?.getD []], ?_, orderly_ofStored rowSound, rfl, rowCount_ofStored, ?_⟩
  · rw [rowMatrix, row_ofStored, ok_bind, ofEntries_eq]
    rfl
  · rw [row_ofStored, row_ofStored]
    rfl

theorem represents_ofStored (inside : ∀ row ∈ rows, ∀ entry ∈ row.entries, entry.1 < width) :
    (ofStored width (rows.map storedEntries)).Represents width rows := by
  have sound := sound_rows inside
  refine ⟨orderly_ofStored sound, rfl, ?_, ?_, dense_ofStored inside, single_ofStored sound, ?_⟩
  · rw [rowCount_ofStored, List.length_map]
  · intro r c
    rw [get_ofStored, valueAt_stored]
  · intro r behind
    rw [row_ofStored, List.getElem?_eq_none (by rwa [List.length_map])]
    rfl

-- Two matrices of sound rows are equal if they have one shape and equal values all over it.
theorem agrees_ofStored_iff_values [PartialEquivBEq α] (zero : ((0 : α) == 0) = true)
    (sound : ∀ entries ∈ stored, Sound width entries) (soundToo : ∀ entries ∈ storedToo, Sound widthToo entries) :
    (ofStored width stored).agrees (ofStored widthToo storedToo) = true ↔
      width = widthToo ∧ stored.length = storedToo.length ∧ ∀ r < stored.length, ∀ c < width,
        (valueAt (stored[r]?.getD []) c == valueAt (storedToo[r]?.getD []) c) = true := by
  rw [agrees_ofStored_iff, List.forall₂_iff_get]
  constructor
  · rintro ⟨sameWidth, sameLength, alike⟩
    refine ⟨sameWidth, sameLength, ?_⟩
    intro r there c _
    rw [List.getElem?_eq_getElem there, List.getElem?_eq_getElem (sameLength ▸ there)]
    exact valueAt_alike zero (alike r there (sameLength ▸ there))
  · rintro ⟨rfl, sameLength, values⟩
    refine ⟨rfl, sameLength, ?_⟩
    intro r there thereToo
    have rowSound := sound _ (List.getElem_mem there)
    have rowSoundToo := soundToo _ (List.getElem_mem thereToo)
    apply alike_of_valueAt zero rowSound rowSoundToo
    intro c
    by_cases within : c < width
    · have equal := values r there c within
      rwa [List.getElem?_eq_getElem there, List.getElem?_eq_getElem thereToo] at equal
    · have behind := Nat.le_of_not_lt within
      rw [valueAt_outside rowSound behind, valueAt_outside rowSoundToo behind]
      exact zero

end Entries

-- Rows of doubles make a matrix exactly if there is a column for each of their entries, even for those that are zero.
-- The matrix gives back what the rows say of each place, and it is the only one with these numbers in these places.
theorem ofRows_exact (columnCount : Nat) (rows : List (Dictionary Nat Float)) :
    pushRows columnCount rows = ofRows columnCount rows ∧
    ((∃ error, ofRows columnCount rows = .error error) ↔ ∃ row ∈ rows, ∃ column ∈ row.keys, columnCount ≤ column) ∧
    (∀ matrix, ofRows columnCount rows = .ok matrix → matrix.Represents columnCount rows) ∧
    (∀ value : Float, (value == value) = true → (settled value == value) = true) ∧
    ∀ matrix, ofRows columnCount rows = .ok matrix → ∀ columnCountToo rowsToo matrixToo,
      ofRows columnCountToo rowsToo = .ok matrixToo →
        (matrix.agrees matrixToo = true ↔
          matrix.columnCount = matrixToo.columnCount ∧ matrix.rowCount = matrixToo.rowCount ∧
          ∀ r < matrix.rowCount, ∀ c < matrix.columnCount, ∃ value valueToo,
            matrix.get r c = .ok value ∧ matrixToo.get r c = .ok valueToo ∧ (value == valueToo) = true) := by
  refine ⟨pushRows_eq, ?_, ?_, fun _ => settled_beq, ?_⟩
  · constructor
    · rintro ⟨error, failed⟩
      by_contra absent
      have inside : ∀ row ∈ rows, ∀ entry ∈ row.entries, entry.1 < columnCount := by
        intro row member entry among
        apply Nat.lt_of_not_le
        intro outside
        exact absent ⟨row, member, entry.1, List.mem_map_of_mem among, outside⟩
      rw [ofRows_eq_ok_iff.mpr ⟨inside, rfl⟩] at failed
      cases failed
    · rintro ⟨row, member, column, among, outside⟩
      cases built : ofRows columnCount rows with
      | error error => exact ⟨error, rfl⟩
      | ok matrix =>
        obtain ⟨entry, there, rfl⟩ := List.mem_map.mp among
        have inside := (ofRows_eq_ok_iff.mp built).1 row member entry there
        omega
  · intro matrix built
    obtain ⟨inside, rfl⟩ := ofRows_eq_ok_iff.mp built
    exact represents_ofStored inside
  · intro matrix built columnCountToo rowsToo matrixToo builtToo
    obtain ⟨inside, rfl⟩ := ofRows_eq_ok_iff.mp built
    obtain ⟨insideToo, rfl⟩ := ofRows_eq_ok_iff.mp builtToo
    rw [agrees_ofStored_iff_values rfl (sound_rows inside) (sound_rows insideToo), rowCount_ofStored, rowCount_ofStored]
    simp only [get_ofStored, columnCount_ofStored, Except.ok.injEq, exists_eq_left', exists_and_left]

-- The zero with a minus sign is not stored, and there is a column for it.
theorem ofRows_of_signed_zero :
    ofRows 4 [.ofList [(3, 1.5), (0, 2)], .ofList [(1, -0.0)]] = .ok ⟨4, [0, 2, 2], [0, 3], [2, 1.5]⟩ ∧
      (⟨4, [0, 2, 2], [0, 3], [2, 1.5]⟩ : SparseMatrix Float).Represents 4
        [.ofList [(3, 1.5), (0, 2)], .ofList [(1, -0.0)]] ∧
      ∃ error, ofRows 1 [.ofList [(1, (-0.0 : Float))]] = .error error := by
  have built : ofRows 4 [.ofList [(3, 1.5), (0, 2)], .ofList [(1, (-0.0 : Float))]] =
      .ok ⟨4, [0, 2, 2], [0, 3], [2, 1.5]⟩ := rfl
  obtain ⟨_, _, represents, _⟩ := ofRows_exact 4 [.ofList [(3, 1.5), (0, 2)], .ofList [(1, -0.0)]]
  refine ⟨built, represents _ built, (ofRows_exact 1 _).2.1.mpr ?_⟩
  exact ⟨_, List.mem_cons_self, 1, List.mem_cons_self, Nat.le_refl 1⟩

end TextFeatures.SparseMatrix
