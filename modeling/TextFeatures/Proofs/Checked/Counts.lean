import TextFeatures.Proofs.Checked.Matrices
import TextFeatures.Proofs.Checked.Terms

namespace TextFeatures.Checked

def documentTerms (vectorizer : Vectorizer) (vocabulary : Option Vocabulary) (document : String) :
    Except Stop (List String) :=
  terms vectorizer.normalizer vocabulary document vectorizer.analysis

def vocabularyOf (vectorizer : Vectorizer) (corpus : List String) : Except Stop Vocabulary := do
  let documents ← corpus.mapM (documentTerms vectorizer none)
  told ((Vocabulary.build documents vectorizer.bounds).mapError .vocabulary)

def transform (vectorizer : Vectorizer) (corpus : List String) : Except Stop (SparseMatrix Nat) := do
  let vocabulary ← told (match vectorizer.vocabulary with
    | none => .error (.features .unfitted)
    | some vocabulary => .ok vocabulary)
  let documents ← corpus.mapM (documentTerms vectorizer (some vocabulary))
  told ((SparseMatrix.ofRows vocabulary.size (documents.map (Vectorizer.countRow vocabulary))).mapError .features)

def countWords (vectorizer : Vectorizer) (text : String) : Except Stop (SparseMatrix Nat) :=
  transform vectorizer (textsOf (Words.tokens text))

def sequenceCounts (config : Config) (vectorizer : Vectorizer) (texts : List String) : Except Stop (Batch Int) := do
  let counts ← texts.mapM (countWords vectorizer)
  if config.sparse then
    return .sparseSequence (counts.map (SparseMatrix.map Int.ofNat))
  else
    let matrices ← counts.mapM toDense
    let padded ← padAll vectorizer.vocabularySize (matrices.map (DenseMatrix.map Int.ofNat))
    return .denseSequence padded

def bagCounts (config : Config) (vectorizer : Vectorizer) (texts : List String) : Except Stop (Batch Int) := do
  let counts ← transform vectorizer texts
  if config.sparse then
    return .sparse (counts.map Int.ofNat)
  else
    let rows ← toDense counts
    return .dense (rows.map Int.ofNat)

def examples : Batch Int → Except Stop (List (Features Int))
  | .dense rows => .ok (rows.rows.map .dense)
  | .sparse rows => do
    let matrices ← rowMatrices rows
    return matrices.map .sparse
  | .denseSequence matrices => .ok (matrices.map .sequence)
  | .sparseSequence matrices => .ok (matrices.map .sparse)

def features (config : Config) (vectorizer : Vectorizer) (texts : List String) :
    Except Stop (List (Features Float)) := do
  let batch ← if config.sequence then sequenceCounts config vectorizer texts else bagCounts config vectorizer texts
  let examples ← examples batch
  return examples.map (Features.map Float.ofInt)

variable {config : Config} {normalizer : Normalizer} {vectorizer : Vectorizer} {vocabulary? : Option Vocabulary}
  {vocabulary : Vocabulary} {document text : String} {corpus texts found : List String} {matrix : SparseMatrix Nat}
  {row : List (Nat × Nat)}

theorem documentTerms_eq (given : vectorizer.terms vocabulary? document = .ok found) :
    documentTerms vectorizer vocabulary? document = .ok found := terms_eq (mapError_eq_ok_iff.mp given)

theorem transform_eq (given : vectorizer.transform corpus = .ok matrix) : transform vectorizer corpus = .ok matrix := by
  unfold Vectorizer.transform at given
  unfold transform
  cases fitted : vectorizer.vocabulary with
  | none => simp [fitted] at given
  | some vocabulary =>
    simp only [fitted, bind_eq_ok_iff] at given
    obtain ⟨documents, analyzed, counted⟩ := given
    rw [told_ok, ok_bind, mapM_of_mapM (fun _ _ => documentTerms_eq) analyzed, ok_bind, counted, told_ok]

theorem storable_storedRow (serves : vectorizer.Serves config normalizer vocabulary)
    (counted : vectorizer.storedRow vocabulary document = .ok row) : Storable vocabulary.size row := by
  obtain ⟨terms, _, rfl⟩ := map_eq_ok_iff.mp counted
  refine ⟨fun entry member => ?_, ?_⟩
  · exact serves.countRow_inside (List.mem_of_mem_filter member)
  · exact (Dictionary.ne_of_ordered (Vectorizer.countRow vocabulary terms).ordered).filter _

theorem exists_transform (accepted : config.validate = .ok ())
    (serves : vectorizer.Serves config normalizer vocabulary) (corpus : List String) :
    ∃ rows, vectorizer.transform corpus = .ok (.ofStored vocabulary.size rows) ∧
      ∀ row ∈ rows, Storable vocabulary.size row := by
  obtain ⟨rows, counted, transformed⟩ := serves.exists_transform accepted corpus
  refine ⟨rows, transformed, fun row member => ?_⟩
  obtain ⟨document, _, stored⟩ := exists_of_mem_mapM counted member
  exact storable_storedRow serves stored

theorem features_bag (accepted : config.validate = .ok ())
    (serves : vectorizer.Serves config normalizer vocabulary) (bag : config.sequence = false) :
    features config vectorizer texts = told (Featurizer.features config vectorizer texts) := by
  obtain ⟨rows, counted, storable⟩ := exists_transform accepted serves texts
  have checked := transform_eq counted
  simp only [features, Featurizer.features, Featurizer.counts, bag, Bool.false_eq_true, if_false, bagCounts,
    Featurizer.bagCounts, counted, checked, ok_bind]
  cases config.sparse with
  | true =>
    simp only [if_true, pure_eq_ok, ok_bind, examples, Batch.examples, SparseMatrix.map_ofStored, rowMatrices_ofStored,
      SparseMatrix.rows_ofStored, ok_mapError, told_ok, List.map_map, SparseMatrix.columnCount_ofStored]
    rfl
  | false =>
    simp only [Bool.false_eq_true, if_false, toDense_ofStored storable, SparseMatrix.toDense_ofStored, ok_bind,
      pure_eq_ok, ok_mapError, examples, Batch.examples, told_ok]

theorem features_sequence (accepted : config.validate = .ok ())
    (serves : vectorizer.Serves config normalizer vocabulary) (sequence : config.sequence = true) :
    features config vectorizer texts = told (Featurizer.features config vectorizer texts) := by
  choose rows counted storable using exists_transform accepted serves
  have each : texts.mapM (Featurizer.countWords vectorizer) =
      .ok ((texts.map fun text => rows (Featurizer.wordsOf text)).map (SparseMatrix.ofStored vocabulary.size)) := by
    rw [List.map_map]
    exact mapM_of_each fun text _ => counted _
  have checked : texts.mapM (countWords vectorizer) =
      .ok ((texts.map fun text => rows (Featurizer.wordsOf text)).map (SparseMatrix.ofStored vocabulary.size)) :=
    mapM_of_mapM (fun text matrix => transform_eq) each
  simp only [features, Featurizer.features, Featurizer.counts, sequence, if_true, sequenceCounts,
    Featurizer.sequenceCounts, each, checked, ok_bind]
  cases config.sparse with
  | true =>
    simp only [if_true, pure_eq_ok, ok_bind, examples, Batch.examples, ok_mapError, told_ok]
  | false =>
    have written : ∀ stored ∈ texts.map fun text => rows (Featurizer.wordsOf text), ∀ entries ∈ stored,
        Storable vocabulary.size entries := by
      intro stored member
      obtain ⟨text, _, rfl⟩ := List.mem_map.mp member
      exact storable _
    have wide : ∀ matrix ∈ ((texts.map fun text => rows (Featurizer.wordsOf text)).map fun stored =>
        (⟨vocabulary.size, stored.map (SparseMatrix.denseRow vocabulary.size)⟩ : DenseMatrix Nat)).map
          (DenseMatrix.map Int.ofNat), matrix.columnCount = vectorizer.vocabularySize := by
      simp only [List.forall_mem_map]
      intro text _
      rw [Vectorizer.vocabularySize, serves.fitted]
      rfl
    simp only [Bool.false_eq_true, if_false, mapM_toDense_ofStored written, SparseMatrix.mapM_toDense_ofStored, ok_bind,
      pure_eq_ok, ok_mapError, padAll_eq wide, examples, Batch.examples, told_ok]

-- Once there is a vocabulary, texts are featurized without a breach.
theorem features_eq (accepted : config.validate = .ok ())
    (serves : vectorizer.Serves config normalizer vocabulary) (texts : List String) :
    features config vectorizer texts = told (Featurizer.features config vectorizer texts) := by
  cases sequence : config.sequence with
  | false => exact features_bag accepted serves sequence
  | true => exact features_sequence accepted serves sequence

theorem vocabularyOf_eq (accepted : config.validate = .ok ())
    (configured : Analysis.ofConfig config = .ok vectorizer.analysis) (corpus : List String) :
    vocabularyOf vectorizer corpus = told (vectorizer.learn corpus) := by
  obtain ⟨documents, analyzed⟩ : ∃ documents, corpus.mapM (vectorizer.terms none) = .ok documents :=
    exists_mapM fun document _ => Vectorizer.exists_terms accepted configured
  rw [vocabularyOf, mapM_of_mapM (fun _ _ => documentTerms_eq) analyzed, Vectorizer.learn, analyzed]
  rfl

end TextFeatures.Checked
