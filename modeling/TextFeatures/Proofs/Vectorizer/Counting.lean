import TextFeatures.Proofs.Vectorizer.StopWords

namespace TextFeatures

variable {config : Config} {normalizer : Normalizer} {vocabulary : Vocabulary} {tokens : List Token}
  {words terms corpus texts : List String} {marker term document : String} {column d : Nat} {matrix : SparseMatrix Nat}
  {vectorizer : Vectorizer}

namespace Vectorizer

-- The row of a document that is analyzed to these terms: at the column of each term of the vocabulary how often it
-- occurs, where it does, and nothing for other terms.
structure Counts (vocabulary : Vocabulary) (terms : List String) (row : List (Nat × Nat)) : Prop where
  increasing : row.Pairwise fun a b => a.1 < b.1
  positive : ∀ entry ∈ row, 1 ≤ entry.2
  known : ∀ entry ∈ row, ∃ term ∈ terms, vocabulary.index? term = some entry.1
  counted : ∀ term column, vocabulary.index? term = some column → SparseMatrix.valueAt row column = terms.count term
  total : (row.map Prod.snd).sum = terms.countP vocabulary.contains

theorem positive_of_mem_countRow {entry : Nat × Nat} (member : entry ∈ (countRow vocabulary terms).entries) :
    1 ≤ entry.2 := by
  obtain ⟨there, counted⟩ := Dictionary.of_mem_tally member
  exact counted ▸ List.count_pos_iff.mpr there

def rowOf (vocabulary : Vocabulary) (terms : List String) : List (Nat × Nat) :=
  SparseMatrix.storedEntries (countRow vocabulary terms)

theorem rowOf_eq : rowOf vocabulary terms = (countRow vocabulary terms).entries := by
  refine List.filter_eq_self.mpr fun entry member => ?_
  have positive := positive_of_mem_countRow member
  simp only [bne_iff_ne]
  omega

theorem length_filterMap_index? : (terms.filterMap vocabulary.index?).length = terms.countP vocabulary.contains := by
  induction terms with
  | nil => rfl
  | cons term rest ih =>
    rw [List.filterMap_cons, List.countP_cons, ← ih]
    have known : vocabulary.contains term = (vocabulary.index? term).isSome := rfl
    cases found : vocabulary.index? term <;> simp [known, found]

theorem counts_rowOf (numbered : vocabulary.Numbered) : Counts vocabulary terms (rowOf vocabulary terms) where
  increasing := rowOf_eq ▸ (countRow vocabulary terms).ordered
  positive _ member := positive_of_mem_countRow (rowOf_eq ▸ member)
  known _ member := List.mem_filterMap.mp (Dictionary.mem_of_mem_tally (rowOf_eq ▸ member))
  counted _ _ found := valueAt_countRow numbered found
  total := by rw [rowOf_eq, countRow, Dictionary.sum_tally, length_filterMap_index?]

theorem Learns.exists_analyzed (learns : Learns config normalizer corpus vectorizer) (vocabulary? : Option Vocabulary)
    (document : String) : ∃ terms, vectorizer.terms vocabulary? document = .ok terms := by
  cases analysis : vectorizer.analysis with
  | words pattern stopWords least most => exact learns.exists_terms analysis vocabulary? document
  | grams sizes => exact ⟨_, by rw [Vectorizer.terms, analysis]; rfl⟩

-- What documents are counted to that can be analyzed: a row for each of them that depends on nothing else.
theorem Serves.transform_of_analyzed (serves : Serves config normalizer vocabulary vectorizer)
    {analyzed : String → List String}
    (given : ∀ document, vectorizer.terms (some vocabulary) document = .ok (analyzed document)) (texts : List String) :
    vectorizer.transform texts =
      .ok (.ofStored vocabulary.size (texts.map fun document => rowOf vocabulary (analyzed document))) := by
  have each : ∀ document ∈ texts,
      vectorizer.storedRow vocabulary document = .ok (rowOf vocabulary (analyzed document)) :=
    fun document _ => by rw [storedRow, given]; rfl
  rw [serves.transform_eq, mapM_of_each each]
  rfl

theorem Learns.exists_rows (learns : Learns config normalizer corpus vectorizer) :
    ∃ vocabulary, Trained config normalizer vocabulary vectorizer ∧
      ∃ analyzed : String → List String,
        (∀ document, vectorizer.terms (some vocabulary) document = .ok (analyzed document)) ∧
        ∀ texts, vectorizer.transform texts =
          .ok (.ofStored vocabulary.size (texts.map fun document => rowOf vocabulary (analyzed document))) := by
  obtain ⟨vocabulary, trained, _⟩ := learns.trained
  choose analyzed given using learns.exists_analyzed (some vocabulary)
  exact ⟨vocabulary, trained, analyzed, given, trained.serves.transform_of_analyzed given⟩

theorem row_of_document {analyzed : String → List String} (there : texts[d]? = some document) :
    (SparseMatrix.ofStored vocabulary.size (texts.map fun document => rowOf vocabulary (analyzed document))).row d =
      .ok (rowOf vocabulary (analyzed document)) :=
  SparseMatrix.row_of_getElem? (by rw [List.getElem?_map, there]; rfl)

-- Whatever is counted after learning, every document has its row, with the counts of its terms and of no others, and
-- the same row among any other documents.
theorem transform_counts (learns : Learns config normalizer corpus vectorizer) :
    ∃ (vocabulary : Vocabulary) (analyzed : String → List String) (row : String → List (Nat × Nat)),
      vectorizer.vocabulary = some vocabulary ∧
      (∀ document, vectorizer.terms (some vocabulary) document = .ok (analyzed document) ∧
        Counts vocabulary (analyzed document) (row document)) ∧
      ∀ texts, ∃ matrix, vectorizer.transform texts = .ok matrix ∧
        matrix.rowCount = texts.length ∧ matrix.columnCount = vocabulary.size ∧
        matrix.rows = .ok (texts.map row) ∧
        ∀ (d : Nat) document, texts[d]? = some document → matrix.row d = .ok (row document) ∧
          ∀ term column, vocabulary.index? term = some column →
            matrix.get d column = .ok ((analyzed document).count term) := by
  obtain ⟨vocabulary, trained, analyzed, given, transformed⟩ := learns.exists_rows
  have counts (document : String) : Counts vocabulary (analyzed document) (rowOf vocabulary (analyzed document)) :=
    counts_rowOf trained.numbered
  refine ⟨vocabulary, analyzed, fun document => rowOf vocabulary (analyzed document), trained.fitted,
    fun document => ⟨given document, counts document⟩, fun texts => ⟨_, transformed texts, ?_⟩⟩
  refine ⟨?_, rfl, SparseMatrix.rows_ofStored, fun d document there => ⟨row_of_document there, ?_⟩⟩
  · rw [SparseMatrix.rowCount_ofStored, List.length_map]
  · intro term column found
    rw [SparseMatrix.get_of_row (row_of_document there), (counts document).counted term column found]

def boundedLetters : Config :=
  { Config.default with analyzer := .charInWord, lowercase := false, leastNgram := 2, mostNgram := 3 }

theorem boundedLetters_counts :
    ∃ vectorizer vocabulary matrix terms row,
      Learns boundedLetters (Normalizer.ofConfig boundedLetters).1 ["ab a"] vectorizer ∧
      vectorizer.vocabulary = some vocabulary ∧ vocabulary.index? " a" = some 0 ∧
      vectorizer.transform ["zz", "a ab a"] = .ok matrix ∧ matrix.rowCount = 2 ∧ matrix.columnCount = 7 ∧
      vectorizer.terms (some vocabulary) "a ab a" = .ok terms ∧ matrix.row 1 = .ok row ∧
      Counts vocabulary terms row ∧ matrix.get 1 0 = .ok 3 := by
  obtain ⟨vectorizer, vocabulary, terms, learns, fitted, found, size, given, thrice⟩ :
      ∃ vectorizer vocabulary terms,
        Learns boundedLetters (Normalizer.ofConfig boundedLetters).1 ["ab a"] vectorizer ∧
        vectorizer.vocabulary = some vocabulary ∧ vocabulary.index? " a" = some 0 ∧ vocabulary.size = 7 ∧
        vectorizer.terms (some vocabulary) "a ab a" = .ok terms ∧ terms.count " a" = 3 :=
    ⟨_, _, _, ⟨_, _, rfl, rfl, rfl⟩, rfl, by decide +kernel, by decide +kernel, rfl, by decide +kernel⟩
  obtain ⟨_, analyzed, row, sameVocabulary, each, counted⟩ := transform_counts learns
  cases fitted.symm.trans sameVocabulary
  obtain ⟨analysis, counts⟩ := each "a ab a"
  cases given.symm.trans analysis
  obtain ⟨matrix, transformed, rows, columns, _, places⟩ := counted ["zz", "a ab a"]
  obtain ⟨placed, entries⟩ := places 1 "a ab a" rfl
  exact ⟨vectorizer, vocabulary, matrix, _, _, learns, fitted, found, transformed, rows, columns.trans size, given,
    placed, counts, thrice ▸ entries " a" 0 found⟩

end Vectorizer

namespace Analysis

theorem renamed_of_marked (marked : normalizer.oovMarker = some marker) (learned : vocabulary.contains marker = true)
    {word : String} : renamed normalizer vocabulary word = if vocabulary.contains word then word else marker := by
  simp only [renamed, marked, learned, Bool.true_and]
  cases vocabulary.contains word <;> rfl

theorem wordsLeft_of_unstopped : wordsLeft normalizer none (some vocabulary) tokens =
    (textsOf tokens).map (renamed normalizer vocabulary) := by
  rw [wordsLeft, substitute_eq_map, dropStopWords, textsOf, textsOf, List.map_map, List.map_map]
  exact List.map_congr_left fun token _ => text_substituted

theorem contains_renamed (marked : normalizer.oovMarker = some marker) (learned : vocabulary.contains marker = true)
    {word : String} : vocabulary.contains (renamed normalizer vocabulary word) = true := by
  rw [renamed_of_marked marked learned]
  split
  · assumption
  · exact learned

theorem count_renamed (marked : normalizer.oovMarker = some marker) (learned : vocabulary.contains marker = true)
    (known : vocabulary.contains term = true) : (words.map (renamed normalizer vocabulary)).count term =
      if term = marker then words.countP fun word => word = marker || !vocabulary.contains word
      else words.count term := by
  rw [List.count, List.countP_map]
  split
  · rename_i same
    refine List.countP_congr fun word _ => ?_
    simp only [Function.comp_apply, renamed_of_marked marked learned, same]
    cases vocabulary.contains word <;> simp
  · rename_i other
    refine List.countP_congr fun word _ => ?_
    simp only [Function.comp_apply, renamed_of_marked marked learned]
    cases present : vocabulary.contains word with
    | true => simp
    | false =>
      have missed : word ≠ term := fun same => by rw [same, known] at present; cases present
      simp [missed, Ne.symm other]

end Analysis

namespace Vectorizer

-- Once a marker is learned no single word is lost: every word counts as itself or as the marker.
theorem marker_counts_the_rest (analyzer : config.analyzer = .word) (single : config.mostNgram = 1)
    (unstopped : config.stopWords = none) (learns : Learns config normalizer corpus vectorizer)
    (marked : normalizer.oovMarker = some marker) (fitted : vectorizer.vocabulary = some vocabulary)
    (learned : vocabulary.contains marker = true) :
    ∃ pattern, Pattern.compile config.tokenPattern = .ok pattern ∧
      ∀ texts, ∃ matrix, vectorizer.transform texts = .ok matrix ∧
        ∀ (d : Nat) document, texts[d]? = some document →
          let words := textsOf (Analysis.wordTokens normalizer pattern document)
          (∀ term column, vocabulary.index? term = some column → matrix.get d column =
            .ok (if term = marker then words.countP fun word => word = marker || !vocabulary.contains word
              else words.count term)) ∧
          ∃ row, matrix.row d = .ok row ∧ (row.map Prod.snd).sum = words.length := by
  obtain ⟨_, trained, analyzed, given, transformed⟩ := learns.exists_rows
  obtain rfl := Option.some.inj (fitted.symm.trans trained.fitted)
  obtain ⟨pattern, compiled, analysis⟩ := exists_compiled analyzer trained.analysis
  have renames (document : String) : analyzed document =
      (textsOf (Analysis.wordTokens normalizer pattern document)).map (Analysis.renamed normalizer vocabulary) := by
    have terms := given document
    rw [Vectorizer.terms, analysis, unstopped, single, trained.normalizer_eq, mapError_eq_ok_iff] at terms
    rw [← Except.ok.inj terms, ← Analysis.wordsLeft_of_unstopped]
    rfl
  refine ⟨pattern, compiled, fun texts => ⟨_, transformed texts, fun d document there => ?_⟩⟩
  have counts : Counts vocabulary (analyzed document) (rowOf vocabulary (analyzed document)) :=
    counts_rowOf trained.numbered
  refine ⟨fun term column found => ?_, _, row_of_document there, ?_⟩
  · have known : vocabulary.contains term = true := Option.isSome_iff_exists.mpr ⟨column, found⟩
    rw [SparseMatrix.get_of_row (row_of_document there), counts.counted term column found, renames,
      Analysis.count_renamed marked learned known]
  · rw [counts.total, renames, List.countP_eq_length.mpr, List.length_map]
    intro word member
    obtain ⟨_, _, rfl⟩ := List.mem_map.mp member
    exact Analysis.contains_renamed marked learned

-- The marker is learned in lower case, for a configured word.
def markedGreetings : Config := { Config.default with oovMarker := some "OOV", oovWords := ["Rare"] }

theorem markedGreetings_count :
    (markedGreetings.analyzer = .word ∧ markedGreetings.mostNgram = 1 ∧ markedGreetings.stopWords = none ∧
      (Normalizer.ofConfig markedGreetings).1.oovMarker = some "oov") ∧
    ∃ vectorizer vocabulary matrix row,
      Learns markedGreetings (Normalizer.ofConfig markedGreetings).1 ["Good rare good day"] vectorizer ∧
      vectorizer.vocabulary = some vocabulary ∧ vocabulary.contains "oov" = true ∧
      vectorizer.transform ["Good unseen oov nice day"] = .ok matrix ∧
      matrix.get 0 1 = .ok 1 ∧ matrix.get 0 2 = .ok 3 ∧ matrix.row 0 = .ok row ∧ (row.map Prod.snd).sum = 5 := by
  have marked : (Normalizer.ofConfig markedGreetings).1.oovMarker = some "oov" := by decide +kernel
  obtain ⟨vectorizer, vocabulary, pattern, learns, fitted, compiled, good, oov, told, seen⟩ :
      ∃ vectorizer vocabulary pattern,
      Learns markedGreetings (Normalizer.ofConfig markedGreetings).1 ["Good rare good day"] vectorizer ∧
      vectorizer.vocabulary = some vocabulary ∧ Pattern.compile markedGreetings.tokenPattern = .ok pattern ∧
      vocabulary.index? "good" = some 1 ∧ vocabulary.index? "oov" = some 2 ∧
      textsOf (Analysis.wordTokens (Normalizer.ofConfig markedGreetings).1 pattern "Good unseen oov nice day") =
        ["good", "unseen", "oov", "nice", "day"] ∧
      ["good", "unseen", "oov", "nice", "day"].map vocabulary.contains = [true, false, true, false, true] :=
    ⟨_, _, _, ⟨_, _, rfl, rfl, rfl⟩, rfl, rfl, by decide +kernel, by decide +kernel, by decide +kernel,
      by decide +kernel⟩
  have learned : vocabulary.contains "oov" = true := Option.isSome_iff_exists.mpr ⟨2, oov⟩
  obtain ⟨_, sameCompiled, counted⟩ := marker_counts_the_rest rfl rfl rfl learns marked fitted learned
  cases compiled.symm.trans sameCompiled
  obtain ⟨matrix, transformed, places⟩ := counted ["Good unseen oov nice day"]
  obtain ⟨counts, row, placed, total⟩ := places 0 "Good unseen oov nice day" rfl
  simp only [List.map_cons, List.map_nil, List.cons.injEq] at seen
  rw [told] at counts total
  refine ⟨⟨rfl, rfl, rfl, marked⟩, vectorizer, vocabulary, matrix, row, learns, fitted, learned, transformed, ?_, ?_,
    placed, total⟩
  · exact counts "good" 1 good
  · rw [counts "oov" 2 oov]
    simp [seen]

end Vectorizer

end TextFeatures
