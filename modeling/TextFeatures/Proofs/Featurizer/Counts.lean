import TextFeatures.Featurizer.Counts
import TextFeatures.Proofs.Vectorizer

namespace TextFeatures

variable {α β : Type} {height : Nat}

theorem le_foldl_max {heights : List Nat} (member : height ∈ heights) : height ≤ heights.foldl max 0 := by
  have most : (0 :: heights).max? = some (heights.foldl max 0) := List.max?_cons'
  exact (List.max?_le_iff most).mp (Nat.le_refl _) _ (List.mem_cons_of_mem 0 member)

theorem DenseMatrix.pad_of_le {filler : α} {matrix : DenseMatrix α} (high : height ≤ matrix.rowCount) :
    matrix.pad filler height = matrix := by
  simp [DenseMatrix.pad, Nat.sub_eq_zero_of_le high]

theorem DenseMatrix.map_pad {filler : α} {matrix : DenseMatrix α} (f : α → β) :
    (matrix.pad filler height).map f = (matrix.map f).pad (f filler) height := by
  simp [DenseMatrix.pad, DenseMatrix.map, DenseMatrix.rowCount]

namespace Features

def padTo (filler : α) (height : Nat) : Features α → Features α
  | sequence rows => sequence (rows.pad filler height)
  | other => other

theorem map_padTo {filler : α} {features : Features α} (f : α → β) :
    (features.padTo filler height).map f = (features.map f).padTo (f filler) height := by
  cases features with
  | sequence rows => exact congrArg sequence (DenseMatrix.map_pad f)
  | dense values => rfl
  | sparse rows => rfl

end Features

namespace Featurizer

variable {config : Config} {normalizer : Normalizer} {vocabulary : Vocabulary} {vectorizer : Vectorizer}
  {text : String} {texts : List String} {computed : List (Features Float)} {own : Features Float}

def wordsOf (text : String) : List String := textsOf (Words.tokens text)

def longest (texts : List String) : Nat := (texts.map fun text => (wordsOf text).length).foldl max 0

def ofRow (config : Config) (width : Nat) (row : List (Nat × Nat)) : Features Nat :=
  if config.sparse then .sparse (.ofEntries width row) else .dense (SparseMatrix.denseRow width row)

def ofRows (config : Config) (width : Nat) (rows : List (List (Nat × Nat))) : Features Nat :=
  if config.sparse then .sparse (.ofStored width rows)
  else .sequence ⟨width, rows.map (SparseMatrix.denseRow width)⟩

-- The counts of a text that is not looked at together with others.
def countsAlone (config : Config) (vectorizer : Vectorizer) (vocabulary : Vocabulary) (text : String) :
    Except Error (Features Nat) :=
  if config.sequence then
    ((wordsOf text).mapM (vectorizer.storedRow vocabulary)).map (ofRows config vocabulary.size)
  else (vectorizer.storedRow vocabulary text).map (ofRow config vocabulary.size)

def toFloats (counts : Features Nat) : Features Float := (counts.map Int.ofNat).map Float.ofInt

-- The filling of a sequence is told apart from counts by its sign.
def filled (height : Nat) (own : Features Float) : Features Float := own.padTo (Float.ofInt padding) height

theorem toFloats_ofRow {width : Nat} {row : List (Nat × Nat)} : toFloats (ofRow config width row) =
    if config.sparse then .sparse ((SparseMatrix.ofEntries width (row.map (Prod.map id Int.ofNat))).map Float.ofInt)
    else .dense (((SparseMatrix.denseRow width row).map Int.ofNat).map Float.ofInt) := by
  unfold toFloats ofRow
  split
  · simp [Features.map, SparseMatrix.map, SparseMatrix.ofEntries]
  · rfl

theorem features_bag (serves : vectorizer.Serves config normalizer vocabulary) (bag : config.sequence = false) :
    features config vectorizer texts = (texts.mapM (vectorizer.storedRow vocabulary)).map
      (List.map fun row => toFloats (ofRow config vocabulary.size row)) := by
  simp only [features, counts, bag, bagCounts, serves.transform_eq, toFloats_ofRow]
  cases texts.mapM (vectorizer.storedRow vocabulary) with
  | error e => rfl
  | ok rows =>
    by_cases sparse : config.sparse
    · simp [sparse, Batch.examples, SparseMatrix.map_ofStored, Features.map, Function.comp_def]
    · simp [sparse, Batch.examples, Features.map, DenseMatrix.map, Function.comp_def]

theorem filled_toFloats_ofRows {width : Nat} {rows : List (List (Nat × Nat))} :
    filled height (toFloats (ofRows config width rows)) =
      if config.sparse then .sparse (((SparseMatrix.ofStored width rows).map Int.ofNat).map Float.ofInt)
      else .sequence (((DenseMatrix.map Int.ofNat ⟨width, rows.map (SparseMatrix.denseRow width)⟩).pad padding
        height).map Float.ofInt) := by
  unfold filled toFloats ofRows
  rw [← Features.map_padTo]
  split <;> rfl

theorem countWords_eq (serves : vectorizer.Serves config normalizer vocabulary) :
    countWords vectorizer text = ((wordsOf text).mapM (vectorizer.storedRow vocabulary)).map
      (SparseMatrix.ofStored vocabulary.size) := serves.transform_eq

theorem features_sequence (serves : vectorizer.Serves config normalizer vocabulary)
    (sequence : config.sequence = true) :
    features config vectorizer texts =
      (texts.mapM fun text => (wordsOf text).mapM (vectorizer.storedRow vocabulary)).map fun rowLists =>
        rowLists.map fun rows =>
          filled ((rowLists.map List.length).foldl max 0) (toFloats (ofRows config vocabulary.size rows)) := by
  have counted : texts.mapM (countWords vectorizer) =
      (texts.mapM fun text => (wordsOf text).mapM (vectorizer.storedRow vocabulary)).map
        (List.map (SparseMatrix.ofStored vocabulary.size)) := by
    rw [← mapM_map]
    exact congrArg texts.mapM (funext fun text => countWords_eq serves)
  simp only [features, counts, sequence, sequenceCounts, counted, filled_toFloats_ofRows]
  cases texts.mapM fun text => (wordsOf text).mapM (vectorizer.storedRow vocabulary) with
  | error e => rfl
  | ok rowLists =>
    by_cases sparse : config.sparse
    · simp [sparse, Batch.examples, Features.map, Function.comp_def]
    · rw [Bool.not_eq_true] at sparse
      simp only [sparse, if_true, ok_map, ok_bind, Bool.false_eq_true, if_false, SparseMatrix.mapM_toDense_ofStored,
        ok_mapError, pure_eq_ok, Batch.examples, padAll]
      simp [Features.map, DenseMatrix.rowCount, DenseMatrix.map, Function.comp_def]

theorem filled_toFloats_ofRow {width : Nat} {row : List (Nat × Nat)} :
    filled height (toFloats (ofRow config width row)) = toFloats (ofRow config width row) := by
  rw [toFloats_ofRow]
  split <;> rfl

theorem map_length_eq {rowLists : List (List (List (Nat × Nat)))}
    (counted : (texts.mapM fun text => (wordsOf text).mapM (vectorizer.storedRow vocabulary)) = .ok rowLists) :
    rowLists.map List.length = texts.map fun text => (wordsOf text).length := by
  have sameLength : List.Forall₂ (fun rows text => rows.length = (wordsOf text).length) rowLists texts := by
    refine List.Forall₂.flip ((mapM_eq_ok_iff.mp counted).imp ?_)
    exact fun text rows each => (mapM_eq_ok_iff.mp each).length_eq.symm
  rw [← List.forall₂_eq_eq_eq, List.forall₂_map_left_iff, List.forall₂_map_right_iff]
  exact sameLength

-- The features of several texts are those of each text alone, once sequences are brought to one height.
theorem features_eq (serves : vectorizer.Serves config normalizer vocabulary) :
    features config vectorizer texts = (texts.mapM (countsAlone config vectorizer vocabulary)).map
      (List.map fun counts => filled (longest texts) (toFloats counts)) := by
  cases sequence : config.sequence with
  | false =>
    have each : countsAlone config vectorizer vocabulary = fun text =>
        (vectorizer.storedRow vocabulary text).map (ofRow config vocabulary.size) :=
      funext fun text => by simp [countsAlone, sequence]
    rw [features_bag serves sequence, each, mapM_map]
    cases texts.mapM (vectorizer.storedRow vocabulary) with
    | error e => rfl
    | ok rows => simp [filled_toFloats_ofRow]
  | true =>
    have each : countsAlone config vectorizer vocabulary = fun text =>
        ((wordsOf text).mapM (vectorizer.storedRow vocabulary)).map (ofRows config vocabulary.size) :=
      funext fun text => by simp [countsAlone, sequence]
    rw [features_sequence serves sequence, each, mapM_map]
    cases counted : texts.mapM fun text => (wordsOf text).mapM (vectorizer.storedRow vocabulary) with
    | error e => rfl
    | ok rowLists => simp [map_length_eq counted, longest]

-- How a text is counted alone: as a whole, or word by word.
inductive CountedAlone (config : Config) (vectorizer : Vectorizer) (vocabulary : Vocabulary) (text : String) :
    Features Nat → Prop
  | whole {row : List (Nat × Nat)} : config.sequence = false → vectorizer.storedRow vocabulary text = .ok row →
      CountedAlone config vectorizer vocabulary text (ofRow config vocabulary.size row)
  | wordByWord {rows : List (List (Nat × Nat))} : config.sequence = true →
      (wordsOf text).mapM (vectorizer.storedRow vocabulary) = .ok rows →
      CountedAlone config vectorizer vocabulary text (ofRows config vocabulary.size rows)

theorem countedAlone {counts : Features Nat} (counted : countsAlone config vectorizer vocabulary text = .ok counts) :
    CountedAlone config vectorizer vocabulary text counts := by
  unfold countsAlone at counted
  split at counted
  · rename_i sequence
    obtain ⟨rows, each, rfl⟩ := map_eq_ok_iff.mp counted
    exact .wordByWord sequence each
  · rename_i bag
    obtain ⟨row, whole, rfl⟩ := map_eq_ok_iff.mp counted
    exact .whole (Bool.not_eq_true _ ▸ bag) whole

theorem filled_alone {counts : Features Nat} (counted : countsAlone config vectorizer vocabulary text = .ok counts) :
    filled (longest [text]) (toFloats counts) = toFloats counts := by
  cases countedAlone counted with
  | whole => exact filled_toFloats_ofRow
  | @wordByWord rows _ each =>
    have count := (mapM_eq_ok_iff.mp each).length_eq
    unfold ofRows
    split
    · rfl
    · refine congrArg Features.sequence (DenseMatrix.pad_of_le ?_)
      simp [DenseMatrix.rowCount, DenseMatrix.map, longest, count]

theorem features_singleton (serves : vectorizer.Serves config normalizer vocabulary) :
    features config vectorizer [text] =
      (countsAlone config vectorizer vocabulary text).map fun counts => [toFloats counts] := by
  have alone : [text].mapM (countsAlone config vectorizer vocabulary) =
      (countsAlone config vectorizer vocabulary text).map fun counts => [counts] := by
    rw [List.mapM_cons, List.mapM_nil]
    cases countsAlone config vectorizer vocabulary text <;> rfl
  rw [features_eq serves, alone]
  cases counted : countsAlone config vectorizer vocabulary text with
  | error e => rfl
  | ok counts => simp [filled_alone counted]

theorem kind_toFloats (counts : Features Nat) : (toFloats counts).kind = counts.kind := by
  cases counts <;> rfl

theorem kind_countsAlone {counts : Features Nat} (counted : countsAlone config vectorizer vocabulary text = .ok counts) :
    counts.kind = .dense ↔ config.sequence = false ∧ config.sparse = false := by
  cases countedAlone counted with
  | whole bag => cases sparse : config.sparse <;> simp [ofRow, sparse, bag, Features.kind]
  | wordByWord sequence => cases sparse : config.sparse <;> simp [ofRows, sparse, sequence, Features.kind]

-- What a text gets that is featurized together with others.
def Own (config : Config) (vectorizer : Vectorizer) (height : Nat) (text : String) (features : Features Float) :
    Prop :=
  ∃ alone, Featurizer.features config vectorizer [text] = .ok [alone] ∧ features = filled height alone

theorem own_iff (trained : vectorizer.Trained config normalizer vocabulary) :
    Own config vectorizer height text own ↔ ∃ counts,
      countsAlone config vectorizer vocabulary text = .ok counts ∧ filled height (toFloats counts) = own := by
  simp only [Own, features_singleton trained.serves, map_eq_ok_iff, List.cons.injEq, and_true]
  constructor
  · rintro ⟨_, ⟨counts, counted, rfl⟩, rfl⟩
    exact ⟨counts, counted, rfl⟩
  · rintro ⟨counts, counted, rfl⟩
    exact ⟨_, ⟨counts, counted, rfl⟩, rfl⟩

theorem features_eq_ok_iff (trained : vectorizer.Trained config normalizer vocabulary) :
    features config vectorizer texts = .ok computed ↔
      List.Forall₂ (Own config vectorizer (longest texts)) texts computed := by
  have each (text : String) (own : Features Float) :
      ((countsAlone config vectorizer vocabulary text).map fun counts =>
        filled (longest texts) (toFloats counts)) = .ok own ↔
      Own config vectorizer (longest texts) text own := by
    rw [own_iff trained, map_eq_ok_iff]
  rw [features_eq trained.serves, ← mapM_map, mapM_eq_ok_iff]
  simp only [each]

theorem exists_countsAlone (accepted : config.validate = .ok ())
    (serves : vectorizer.Serves config normalizer vocabulary) (text : String) :
    ∃ counts, countsAlone config vectorizer vocabulary text = .ok counts := by
  unfold countsAlone
  split
  · obtain ⟨rows, counted⟩ := exists_mapM fun word (_ : word ∈ wordsOf text) =>
      serves.exists_storedRow accepted word
    exact ⟨_, map_eq_ok_iff.mpr ⟨rows, counted, rfl⟩⟩
  · obtain ⟨row, counted⟩ := serves.exists_storedRow accepted text
    exact ⟨_, map_eq_ok_iff.mpr ⟨row, counted, rfl⟩⟩

theorem exists_features (accepted : config.validate = .ok ())
    (serves : vectorizer.Serves config normalizer vocabulary) (texts : List String) :
    ∃ computed, features config vectorizer texts = .ok computed := by
  obtain ⟨counts, counted⟩ := exists_mapM fun text (_ : text ∈ texts) =>
    exists_countsAlone accepted serves text
  exact ⟨_, by rw [features_eq serves, counted]; rfl⟩

end Featurizer

end TextFeatures
