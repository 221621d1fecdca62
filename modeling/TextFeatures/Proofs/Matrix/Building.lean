import TextFeatures.Proofs.Matrix.Rows

namespace TextFeatures.SparseMatrix

variable {α : Type} [BEq α] [OfNat α 0] {columnCount column start length : Nat} {lengths : List Nat}
  {matrix : SparseMatrix α} {entries : List (Nat × α)} {stored : List (List (Nat × α))} {row : Dictionary Nat α}
  {rows : List (Dictionary Nat α)}

-- Puts an entry behind those that are stored, unless it is zero. Its column has to be there in either case.
def pushEntry (matrix : SparseMatrix α) (entry : Nat × α) : Except FeatureError (SparseMatrix α) :=
  if matrix.columnCount ≤ entry.1 then .error (.column entry.1 matrix.columnCount)
  else if entry.2 != 0 then
    .ok { matrix with columns := matrix.columns ++ [entry.1], values := matrix.values ++ [entry.2] }
  else .ok matrix

-- A row is over where its last entry is stored. What an error leaves behind of a row is given up with the matrix.
def pushRow (matrix : SparseMatrix α) (row : Dictionary Nat α) : Except FeatureError (SparseMatrix α) := do
  let matrix ← row.entries.foldlM pushEntry matrix
  return { matrix with rowStarts := matrix.rowStarts ++ [matrix.columns.length] }

def pushRows (columnCount : Nat) (rows : List (Dictionary Nat α)) : Except FeatureError (SparseMatrix α) :=
  rows.foldlM pushRow (empty columnCount)

-- The first column that is outside is an error; if there is none, everything is pushed.
def pushed (columnCount : Nat) (outside? : Option Nat) (matrix : SparseMatrix α) :
    Except FeatureError (SparseMatrix α) :=
  match outside? with
  | some column => .error (.column column columnCount)
  | none => .ok matrix

def behind (matrix : SparseMatrix α) (entries : List (Nat × α)) : SparseMatrix α :=
  { matrix with
    columns := matrix.columns ++ entries.map Prod.fst
    values := matrix.values ++ entries.map Prod.snd }

omit [BEq α] [OfNat α 0] in
theorem behind_behind {later : List (Nat × α)} :
    (matrix.behind entries).behind later = matrix.behind (entries ++ later) := by
  simp [behind]

theorem pushEntry_inside {entry : Nat × α} (inside : entry.1 < matrix.columnCount) :
    matrix.pushEntry entry = .ok (matrix.behind ([entry].filter (·.2 != 0))) := by
  unfold pushEntry
  rw [if_neg (Nat.not_le.mpr inside)]
  cases kept : entry.2 != 0 with
  | true =>
    have alone : [entry].filter (·.2 != 0) = [entry] := by simp [kept]
    rw [if_pos rfl, alone]
    rfl
  | false =>
    have none : [entry].filter (·.2 != 0) = [] := by simp [kept]
    rw [if_neg Bool.false_ne_true, none]
    simp [behind]

theorem foldlM_pushEntry : entries.foldlM pushEntry matrix =
    pushed matrix.columnCount ((entries.map Prod.fst).find? (matrix.columnCount ≤ ·))
      (matrix.behind (entries.filter (·.2 != 0))) := by
  induction entries generalizing matrix with
  | nil => simp [pushed, behind]
  | cons entry rest ih =>
    rw [List.foldlM_cons, List.map_cons]
    by_cases outside : matrix.columnCount ≤ entry.1
    · rw [pushEntry, if_pos outside, List.find?_cons_of_pos (by simpa using outside)]
      rfl
    · have later := @ih (matrix.behind ([entry].filter (·.2 != 0)))
      rw [behind_behind, ← List.filter_append, List.singleton_append] at later
      rw [pushEntry_inside (Nat.lt_of_not_le outside), List.find?_cons_of_neg (by simpa using outside)]
      exact later

omit [BEq α] [OfNat α 0] in
theorem startsFrom_concat : startsFrom start (lengths ++ [length]) =
    startsFrom start lengths ++ [start + lengths.sum + length] := by
  induction lengths generalizing start with
  | nil => rfl
  | cons first rest ih => rw [List.cons_append, startsFrom, ih, startsFrom, List.sum_cons, List.cons_append,
      Nat.add_assoc start]

omit [BEq α] [OfNat α 0] in
theorem behind_ofStored : ({ (ofStored columnCount stored).behind entries with
      rowStarts := (ofStored columnCount stored).rowStarts ++
        [((ofStored columnCount stored).behind entries).columns.length] } : SparseMatrix α) =
    ofStored columnCount (stored ++ [entries]) := by
  have stop : ((ofStored columnCount stored).behind entries).columns.length =
      0 + (stored.map List.length).sum + entries.length := by
    simp [behind, ofStored, List.length_flatten, Function.comp_def]
  rw [stop]
  simp [behind, ofStored, startsFrom_concat]

theorem pushRow_ofStored : (ofStored columnCount stored).pushRow row =
    pushed columnCount (row.keys.find? (columnCount ≤ ·)) (ofStored columnCount (stored ++ [storedEntries row])) := by
  rw [pushRow, foldlM_pushEntry, columnCount_ofStored, ← behind_ofStored, Dictionary.keys]
  cases (row.entries.map Prod.fst).find? (columnCount ≤ ·) <;> rfl

theorem foldlM_pushRow : rows.foldlM pushRow (ofStored columnCount stored) =
    pushed columnCount (columnOutside? columnCount rows) (ofStored columnCount (stored ++ rows.map storedEntries)) := by
  induction rows generalizing stored with
  | nil => simp [columnOutside?, pushed]
  | cons row rest ih =>
    rw [List.foldlM_cons, pushRow_ofStored, columnOutside?, List.flatMap_cons, List.find?_append]
    cases row.keys.find? (columnCount ≤ ·) with
    | some column => rfl
    | none =>
      have later := @ih (stored ++ [storedEntries row])
      rw [List.append_assoc, List.singleton_append] at later
      exact later

-- Pushing entry after entry ends at the first column that is outside, and with the same matrix if there is none.
theorem pushRows_eq : pushRows columnCount rows = ofRows columnCount rows := by
  have nothing : empty columnCount = (ofStored columnCount [] : SparseMatrix α) := rfl
  rw [pushRows, nothing, foldlM_pushRow, List.nil_append, ofRows]
  cases columnOutside? columnCount rows <;> rfl

end TextFeatures.SparseMatrix
