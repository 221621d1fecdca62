import TextFeatures.Proofs.Matrix.Rows
import TextFeatures.Proofs.Vocabulary
import TextFeatures.Vectorizer

namespace TextFeatures

variable {config : Config} {normalizer : Normalizer} {words corpus others : List String} {document : String}
  {vocabulary? : Option Vocabulary} {vocabulary : Vocabulary}

-- A configuration that is accepted leaves nothing to go wrong in the analysis of a text.

theorem Config.validate_eq_ok_iff : config.validate = .ok () ↔
    config.checkSizes = .ok () ∧ config.leastFrequency.check .least = .ok () ∧
      config.mostFrequency.check .most = .ok () ∧ config.checkPattern = .ok () := by
  simp only [validate, bind_eq_ok_iff]
  constructor
  · rintro ⟨_, sizes, _, least, _, most, pattern⟩
    exact ⟨sizes, least, most, pattern⟩
  · rintro ⟨sizes, least, most, pattern⟩
    exact ⟨_, sizes, _, least, _, most, pattern⟩

theorem Config.checkSizes_eq_ok (checked : config.checkSizes = .ok ()) :
    config.leastNgram ≠ 0 ∧ config.leastNgram ≤ config.mostNgram := by
  unfold checkSizes at checked
  split at checked
  · cases checked
  · rename_i positive
    split at checked
    · cases checked
    · rename_i ordered
      exact ⟨positive, by omega⟩

theorem exists_wordGrams {least most : Nat} (positive : least ≠ 0) :
    ∃ terms, wordGrams least most words = .ok terms := by
  unfold wordGrams
  by_cases single : most = 1
  · exact ⟨words, if_pos single⟩
  · by_cases first : least = 1
    · simp [single, first]
    · simp [single, first, positive]

namespace Analysis

variable {analysis : Analysis}

theorem exists_ofConfig (accepted : config.validate = .ok ()) :
    ∃ analysis, Analysis.ofConfig config = .ok analysis := by
  obtain ⟨sizes, _, _, pattern⟩ := Config.validate_eq_ok_iff.mp accepted
  obtain ⟨positive, ordered⟩ := Config.checkSizes_eq_ok sizes
  have notBelow : ¬config.mostNgram < config.leastNgram := by omega
  unfold Analysis.ofConfig
  cases analyzer : config.analyzer with
  | word =>
    simp only [Config.checkPattern, Analyzer.isWord, analyzer, decide_true, if_true] at pattern
    cases compiled : Pattern.compile config.tokenPattern with
    | error cause => simp [compiled] at pattern
    | ok pattern => exact ⟨_, rfl⟩
  | char => simp [GramSizes.ofRange, positive, notBelow]
  | charInWord => simp [GramSizes.ofRange, positive, notBelow]

theorem exists_terms (accepted : config.validate = .ok ()) (made : Analysis.ofConfig config = .ok analysis) :
    ∃ terms, analysis.terms normalizer vocabulary? document = .ok terms := by
  obtain ⟨sizes, _⟩ := Config.validate_eq_ok_iff.mp accepted
  obtain ⟨positive, _⟩ := Config.checkSizes_eq_ok sizes
  cases analysis with
  | grams sizes => exact ⟨_, rfl⟩
  | words pattern stopWords least most =>
    have same : least = config.leastNgram := by
      unfold Analysis.ofConfig at made
      split at made
      · split at made
        · cases made
        · cases made
          rfl
      · cases range : GramSizes.ofRange config.leastNgram config.mostNgram false <;> simp [range] at made
      · cases range : GramSizes.ofRange config.leastNgram config.mostNgram true <;> simp [range] at made
    exact exists_wordGrams (same ▸ positive)

theorem analyzer_ofConfig (made : Analysis.ofConfig config = .ok analysis) :
    analysis.analyzer = config.analyzer := by
  have grams {insideWords : Bool} {analyzer : Analyzer}
      (ranged : (GramSizes.ofRange config.leastNgram config.mostNgram insideWords).map Analysis.grams = .ok analysis)
      (same : (if insideWords then Analyzer.charInWord else .char) = analyzer) : analysis.analyzer = analyzer := by
    obtain ⟨sizes, range, rfl⟩ := map_eq_ok_iff.mp ranged
    unfold GramSizes.ofRange at range
    split at range
    · cases range
    · split at range
      · cases range
      · cases range
        exact same
  unfold Analysis.ofConfig at made
  cases kind : config.analyzer with
  | word =>
    simp only [kind] at made
    split at made
    · cases made
    · cases made
      rfl
  | char =>
    simp only [kind] at made
    exact grams made rfl
  | charInWord =>
    simp only [kind] at made
    exact grams made rfl

end Analysis

namespace Vectorizer

variable {vectorizer fresh : Vectorizer}

theorem ofConfig_eq_ok_iff : ofConfig config normalizer = .ok fresh ↔
    ∃ analysis, Analysis.ofConfig config = .ok analysis ∧ fresh = ⟨normalizer, analysis, .ofConfig config, none⟩ := by
  unfold ofConfig
  cases Analysis.ofConfig config <;> simp [eq_comm]

theorem analysis_ofConfig (made : ofConfig config normalizer = .ok fresh) :
    Analysis.ofConfig config = .ok fresh.analysis := by
  obtain ⟨analysis, configured, rfl⟩ := ofConfig_eq_ok_iff.mp made
  exact configured

theorem normalizer_ofConfig (made : ofConfig config normalizer = .ok fresh) : fresh.normalizer = normalizer := by
  obtain ⟨_, _, rfl⟩ := ofConfig_eq_ok_iff.mp made
  rfl

theorem bounds_ofConfig (made : ofConfig config normalizer = .ok fresh) : fresh.bounds = .ofConfig config := by
  obtain ⟨_, _, rfl⟩ := ofConfig_eq_ok_iff.mp made
  rfl

theorem exists_ofConfig (normalizer : Normalizer) (accepted : config.validate = .ok ()) :
    ∃ fresh, ofConfig config normalizer = .ok fresh := by
  obtain ⟨analysis, configured⟩ := Analysis.exists_ofConfig accepted
  exact ⟨_, ofConfig_eq_ok_iff.mpr ⟨analysis, configured, rfl⟩⟩

theorem exists_terms (accepted : config.validate = .ok ())
    (configured : Analysis.ofConfig config = .ok vectorizer.analysis) :
    ∃ terms, vectorizer.terms vocabulary? document = .ok terms := by
  obtain ⟨terms, found⟩ := Analysis.exists_terms accepted configured
  exact ⟨terms, mapError_eq_ok_iff.mpr found⟩

def Learns (config : Config) (normalizer : Normalizer) (corpus : List String) (vectorizer : Vectorizer) : Prop :=
  ∃ fresh vocabulary, ofConfig config normalizer = .ok fresh ∧ fresh.learn corpus = .ok vocabulary ∧
    vectorizer = { fresh with vocabulary := some vocabulary }

def Learnable (config : Config) (normalizer : Normalizer) (corpus : List String) : Prop :=
  ∃ vectorizer, Learns config normalizer corpus vectorizer

def learned? (config : Config) (normalizer : Normalizer) (corpus : List String) : Option Vocabulary := do
  let fresh ← (ofConfig config normalizer).toOption
  (fresh.learn corpus).toOption

theorem exists_learns_of_learned (given : learned? config normalizer corpus = some vocabulary) :
    ∃ vectorizer, Learns config normalizer corpus vectorizer ∧ vectorizer.vocabulary = some vocabulary := by
  obtain ⟨fresh, made, given⟩ := Option.bind_eq_some_iff.mp given
  cases built : ofConfig config normalizer with
  | error _ => rw [built] at made; cases made
  | ok vectorizer =>
    rw [built] at made
    obtain rfl := Option.some.inj made
    cases taught : vectorizer.learn corpus with
    | error _ => rw [taught] at given; cases given
    | ok learned =>
      rw [taught] at given
      obtain rfl := Option.some.inj given
      exact ⟨_, ⟨vectorizer, learned, built, taught, rfl⟩, rfl⟩

-- What it takes to count with a vocabulary, wherever it comes from.
structure Serves (config : Config) (normalizer : Normalizer) (vocabulary : Vocabulary)
    (vectorizer : Vectorizer) : Prop where
  inside : ∀ term column, vocabulary.index? term = some column → column < vocabulary.size
  configured : withVocabulary config normalizer vocabulary = .ok vectorizer

-- What every vectorizer is that a trained featurizer holds, however it came by its vocabulary.
structure Trained (config : Config) (normalizer : Normalizer) (vocabulary : Vocabulary)
    (vectorizer : Vectorizer) : Prop where
  numbered : vocabulary.Numbered
  configured : withVocabulary config normalizer vocabulary = .ok vectorizer

theorem withVocabulary_eq_ok_iff : withVocabulary config normalizer vocabulary = .ok vectorizer ↔
    ∃ fresh, ofConfig config normalizer = .ok fresh ∧ vectorizer = { fresh with vocabulary := some vocabulary } := by
  unfold withVocabulary
  cases ofConfig config normalizer <;> simp [eq_comm]

theorem Serves.fitted (serves : Serves config normalizer vocabulary vectorizer) :
    vectorizer.vocabulary = some vocabulary := by
  obtain ⟨fresh, _, rfl⟩ := withVocabulary_eq_ok_iff.mp serves.configured
  rfl

theorem Serves.analysis (serves : Serves config normalizer vocabulary vectorizer) :
    Analysis.ofConfig config = .ok vectorizer.analysis := by
  obtain ⟨fresh, made, rfl⟩ := withVocabulary_eq_ok_iff.mp serves.configured
  have configured := analysis_ofConfig made
  exact configured

theorem Serves.normalizer_eq (serves : Serves config normalizer vocabulary vectorizer) :
    vectorizer.normalizer = normalizer := by
  obtain ⟨fresh, made, rfl⟩ := withVocabulary_eq_ok_iff.mp serves.configured
  have given := normalizer_ofConfig made
  exact given

theorem Trained.serves (trained : Trained config normalizer vocabulary vectorizer) :
    Serves config normalizer vocabulary vectorizer :=
  ⟨fun _ _ => trained.numbered.index?_lt_size, trained.configured⟩

theorem Trained.fitted (trained : Trained config normalizer vocabulary vectorizer) :
    vectorizer.vocabulary = some vocabulary := trained.serves.fitted

theorem Trained.analysis (trained : Trained config normalizer vocabulary vectorizer) :
    Analysis.ofConfig config = .ok vectorizer.analysis := trained.serves.analysis

theorem Trained.normalizer_eq (trained : Trained config normalizer vocabulary vectorizer) :
    vectorizer.normalizer = normalizer := trained.serves.normalizer_eq

theorem Trained.bounds_eq (trained : Trained config normalizer vocabulary vectorizer) :
    vectorizer.bounds = .ofConfig config := by
  obtain ⟨fresh, made, rfl⟩ := withVocabulary_eq_ok_iff.mp trained.configured
  have given := bounds_ofConfig made
  exact given

theorem learn_numbered (learned : vectorizer.learn corpus = .ok vocabulary) : vocabulary.Numbered := by
  obtain ⟨documents, _, built⟩ := bind_eq_ok_iff.mp learned
  exact Vocabulary.numbered_build (mapError_eq_ok_iff.mp built)

theorem Learns.trained (learns : Learns config normalizer corpus vectorizer) :
    ∃ vocabulary, Trained config normalizer vocabulary vectorizer ∧ vectorizer.learn corpus = .ok vocabulary := by
  obtain ⟨fresh, vocabulary, made, learned, rfl⟩ := learns
  exact ⟨vocabulary, ⟨learn_numbered learned, withVocabulary_eq_ok_iff.mpr ⟨fresh, made, rfl⟩⟩, learned⟩

-- With an accepted configuration nothing but the terms of a corpus can stand in the way of a vocabulary.
theorem learn_error (accepted : config.validate = .ok ()) (made : ofConfig config normalizer = .ok fresh)
    {e : Error} (failed : fresh.learn corpus = .error e) : ∃ cause, e = .vocabulary cause := by
  obtain ⟨documents, analyzed⟩ : ∃ documents, corpus.mapM (fresh.terms none) = .ok documents :=
    exists_mapM fun document _ => exists_terms accepted (analysis_ofConfig made)
  simp only [learn, analyzed, ok_bind] at failed
  cases built : Vocabulary.build documents fresh.bounds with
  | error cause =>
    simp only [built, error_mapError, Except.error.injEq] at failed
    exact ⟨cause, failed.symm⟩
  | ok vocabulary => simp [built] at failed

theorem learn_perm (accepted : config.validate = .ok ())
    (configured : Analysis.ofConfig config = .ok vectorizer.analysis) (shuffled : corpus.Perm others) :
    vectorizer.learn corpus = vectorizer.learn others := by
  have analyzable : ∀ document, ∃ terms, vectorizer.terms none document = .ok terms :=
    fun document => exists_terms accepted configured
  choose terms analyzed using analyzable
  have each (documents : List String) : documents.mapM (vectorizer.terms none) = .ok (documents.map terms) :=
    mapM_of_each fun document _ => analyzed document
  rw [learn, learn, each, each, ok_bind, ok_bind, Vocabulary.build_perm (shuffled.map terms)]

theorem Learns.perm (accepted : config.validate = .ok ()) (shuffled : corpus.Perm others)
    (learns : Learns config normalizer corpus vectorizer) : Learns config normalizer others vectorizer := by
  obtain ⟨fresh, vocabulary, made, learned, rfl⟩ := learns
  exact ⟨fresh, vocabulary, made, learn_perm accepted (analysis_ofConfig made) shuffled ▸ learned, rfl⟩

theorem Serves.countRow_inside (serves : Serves config normalizer vocabulary vectorizer) {terms : List String}
    {entry : Nat × Nat} (member : entry ∈ (countRow vocabulary terms).entries) : entry.1 < vocabulary.size := by
  have counted := Dictionary.mem_of_mem_tally member
  obtain ⟨term, _, found⟩ := List.mem_filterMap.mp counted
  exact serves.inside term entry.1 found

def storedRow (vectorizer : Vectorizer) (vocabulary : Vocabulary) (document : String) :
    Except Error (List (Nat × Nat)) :=
  (vectorizer.terms (some vocabulary) document).map fun terms =>
    SparseMatrix.storedEntries (countRow vocabulary terms)

-- Counting goes document by document, and nothing can be counted outside the matrix.
theorem Serves.transform_eq (serves : Serves config normalizer vocabulary vectorizer) :
    vectorizer.transform corpus =
      (corpus.mapM (vectorizer.storedRow vocabulary)).map (SparseMatrix.ofStored vocabulary.size) := by
  have stored : corpus.mapM (vectorizer.storedRow vocabulary) =
      (corpus.mapM (vectorizer.terms (some vocabulary))).map
        (List.map fun terms => SparseMatrix.storedEntries (countRow vocabulary terms)) := mapM_map
  simp only [transform, serves.fitted, stored]
  cases corpus.mapM (vectorizer.terms (some vocabulary)) with
  | error e => rfl
  | ok documents =>
    have built : SparseMatrix.ofRows vocabulary.size (documents.map (countRow vocabulary)) =
        .ok (SparseMatrix.ofStored vocabulary.size
          ((documents.map (countRow vocabulary)).map SparseMatrix.storedEntries)) := by
      refine SparseMatrix.ofRows_eq_ok_iff.mpr ⟨?_, rfl⟩
      intro row member entry among
      obtain ⟨terms, _, rfl⟩ := List.mem_map.mp member
      exact serves.countRow_inside among
    simp [built, Function.comp_def]

theorem valueAt_countRow (numbered : vocabulary.Numbered) {terms : List String} {term : String} {column : Nat}
    (found : vocabulary.index? term = some column) :
    SparseMatrix.valueAt (SparseMatrix.storedEntries (countRow vocabulary terms)) column = terms.count term := by
  rw [SparseMatrix.valueAt_storedEntries, countRow, Dictionary.getD_tally, numbered.count_index? found]

-- A row is what its document comes to, wherever the document stands.
theorem Trained.row_transform {matrix : SparseMatrix Nat} {d : Nat}
    (trained : Trained config normalizer vocabulary vectorizer) (counted : vectorizer.transform corpus = .ok matrix)
    (there : corpus[d]? = some document) :
    ∃ row, vectorizer.storedRow vocabulary document = .ok row ∧ matrix.row d = .ok row := by
  rw [trained.serves.transform_eq] at counted
  obtain ⟨rows, each, rfl⟩ := map_eq_ok_iff.mp counted
  obtain ⟨row, here, stored⟩ := exists_getElem?_of_mapM each there
  exact ⟨row, stored, by rw [SparseMatrix.row_ofStored, here, Option.getD_some]⟩

theorem Trained.get_transform {matrix : SparseMatrix Nat} {term : String} {d column : Nat}
    (trained : Trained config normalizer vocabulary vectorizer) (counted : vectorizer.transform corpus = .ok matrix)
    (there : corpus[d]? = some document) (found : vocabulary.index? term = some column) :
    ∃ terms, vectorizer.terms (some vocabulary) document = .ok terms ∧ matrix.get d column = .ok (terms.count term) := by
  obtain ⟨row, stored, given⟩ := trained.row_transform counted there
  obtain ⟨terms, analyzed, rfl⟩ := map_eq_ok_iff.mp stored
  refine ⟨terms, analyzed, ?_⟩
  rw [SparseMatrix.get, given, ok_bind, valueAt_countRow trained.numbered found]
  rfl

theorem Trained.column_transform {matrix : SparseMatrix Nat} {documents : List (List String)} {term : String}
    {column : Nat} (trained : Trained config normalizer vocabulary vectorizer)
    (counted : vectorizer.transform corpus = .ok matrix)
    (analyzed : corpus.mapM (vectorizer.terms (some vocabulary)) = .ok documents)
    (found : vocabulary.index? term = some column) :
    matrix.column column = .ok (documents.map (List.count term)) := by
  have stored : corpus.mapM (vectorizer.storedRow vocabulary) = (corpus.mapM (vectorizer.terms (some vocabulary))).map
      (List.map fun terms => SparseMatrix.storedEntries (countRow vocabulary terms)) := mapM_map
  rw [trained.serves.transform_eq, stored, analyzed, ok_map, ok_map] at counted
  obtain rfl := Except.ok.inj counted
  rw [SparseMatrix.column_ofStored, List.map_map]
  exact congrArg Except.ok (List.map_congr_left fun terms _ => valueAt_countRow trained.numbered found)

theorem Serves.exists_storedRow (serves : Serves config normalizer vocabulary vectorizer)
    (accepted : config.validate = .ok ()) (document : String) :
    ∃ row, vectorizer.storedRow vocabulary document = .ok row := by
  obtain ⟨terms, analyzed⟩ : ∃ terms, vectorizer.terms (some vocabulary) document = .ok terms :=
    exists_terms accepted serves.analysis
  exact ⟨_, by rw [storedRow, analyzed]; rfl⟩

theorem Serves.transform_of_terms (serves : Serves config normalizer vocabulary vectorizer)
    (analyzable : ∀ document ∈ corpus, ∃ terms, vectorizer.terms (some vocabulary) document = .ok terms) :
    ∃ rows, corpus.mapM (vectorizer.storedRow vocabulary) = .ok rows ∧
      vectorizer.transform corpus = .ok (.ofStored vocabulary.size rows) := by
  have countable : ∀ document ∈ corpus, ∃ row, vectorizer.storedRow vocabulary document = .ok row := by
    intro document member
    obtain ⟨terms, analyzed⟩ := analyzable document member
    exact ⟨_, by rw [storedRow, analyzed]; rfl⟩
  obtain ⟨rows, counted⟩ := exists_mapM countable
  exact ⟨rows, counted, by rw [serves.transform_eq, counted]; rfl⟩

theorem Serves.exists_transform (serves : Serves config normalizer vocabulary vectorizer)
    (accepted : config.validate = .ok ()) (corpus : List String) :
    ∃ rows, corpus.mapM (vectorizer.storedRow vocabulary) = .ok rows ∧
      vectorizer.transform corpus = .ok (.ofStored vocabulary.size rows) :=
  serves.transform_of_terms fun _ _ => exists_terms accepted serves.analysis

theorem Trained.transform_of_terms (trained : Trained config normalizer vocabulary vectorizer)
    (analyzable : ∀ document ∈ corpus, ∃ terms, vectorizer.terms (some vocabulary) document = .ok terms) :
    ∃ rows, corpus.mapM (vectorizer.storedRow vocabulary) = .ok rows ∧
      vectorizer.transform corpus = .ok (.ofStored vocabulary.size rows) :=
  trained.serves.transform_of_terms analyzable

theorem Trained.exists_transform (trained : Trained config normalizer vocabulary vectorizer)
    (accepted : config.validate = .ok ()) (corpus : List String) :
    ∃ rows, corpus.mapM (vectorizer.storedRow vocabulary) = .ok rows ∧
      vectorizer.transform corpus = .ok (.ofStored vocabulary.size rows) :=
  trained.serves.exists_transform accepted corpus

end Vectorizer

end TextFeatures
