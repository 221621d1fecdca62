import TextFeatures.Proofs.Vectorizer.Marking

namespace TextFeatures

variable {config : Config} {normalizer : Normalizer} {vocabulary : Vocabulary} {vocabulary? : Option Vocabulary}
  {stopWords : StopWords} {token : Token} {tokens others : List Token} {least most : Nat} {word : String}
  {words terms corpus texts : List String} {document other : String} {vectorizer : Vectorizer}

theorem wordGrams_of_ok (given : wordGrams least most words = .ok terms) (others : List String) :
    ∃ grams, wordGrams least most others = .ok grams := by
  by_cases zero : least = 0
  · by_cases single : most = 1
    · exact ⟨others, if_pos single⟩
    · subst zero
      simp [wordGrams, single] at given
  · exact exists_wordGrams zero

namespace Analysis

-- What a stop word is taken for when stop words are dropped, so that it is not dropped: the marker, if that is put
-- in the place of the word and is no stop word.
def standIn? (normalizer : Normalizer) (vocabulary : Vocabulary) (stopWords : StopWords) (word : String) :
    Option String :=
  normalizer.oovMarker.filter fun marker =>
    vocabulary.contains marker && !vocabulary.contains word && !stopWords.contains marker

-- The words of a document without its stop words, but with what stands in for them.
def wordsRead (normalizer : Normalizer) (vocabulary : Vocabulary) (stopWords : StopWords) (tokens : List Token) :
    List String :=
  (textsOf tokens).filterMap fun word =>
    if stopWords.contains word then standIn? normalizer vocabulary stopWords word else some word

def renamed (normalizer : Normalizer) (vocabulary : Vocabulary) (word : String) : String :=
  match normalizer.oovMarker with
  | none => word
  | some marker => if vocabulary.contains marker && !vocabulary.contains word then marker else word

theorem text_substituted :
    (substituted normalizer (some vocabulary) token).text = renamed normalizer vocabulary token.text := by
  unfold substituted renamed
  cases normalizer.oovMarker with
  | none => rfl
  | some marker => dsimp only; split <;> rfl

def left? (normalizer : Normalizer) (vocabulary : Vocabulary) (stopWords : StopWords) (word : String) : Option String :=
  Option.guard (!stopWords.contains ·) (renamed normalizer vocabulary word)

theorem textsOf_filter : textsOf (stopWords.filter tokens) = (textsOf tokens).filter (!stopWords.contains ·) := by
  rw [textsOf, textsOf, List.filter_map]
  rfl

theorem wordsLeft_eq : wordsLeft normalizer (some stopWords) (some vocabulary) tokens =
    (textsOf tokens).filterMap (left? normalizer vocabulary stopWords) := by
  have names : textsOf (tokens.map (substituted normalizer (some vocabulary))) =
      (textsOf tokens).map (renamed normalizer vocabulary) := by
    simp [textsOf, text_substituted]
  rw [wordsLeft, substitute_eq_map, dropStopWords, textsOf_filter, names, ← List.filterMap_eq_filter, List.filterMap_map]
  rfl

theorem left?_standIn? (stops : stopWords.contains word = true) :
    (standIn? normalizer vocabulary stopWords word).bind (left? normalizer vocabulary stopWords) =
      left? normalizer vocabulary stopWords word := by
  unfold standIn? left? renamed
  cases normalizer.oovMarker with
  | none => simp [Option.guard, stops]
  | some marker =>
    cases present : vocabulary.contains marker <;> cases known : vocabulary.contains word <;>
      cases stopped : stopWords.contains marker <;>
      simp [Option.guard, Option.filter, stops, present, stopped]

theorem wordsLeft_eq_wordsRead : wordsLeft normalizer (some stopWords) (some vocabulary) tokens =
    (wordsRead normalizer vocabulary stopWords tokens).filterMap (left? normalizer vocabulary stopWords) := by
  rw [wordsLeft_eq, wordsRead, List.filterMap_filterMap]
  refine List.filterMap_congr fun word _ => ?_
  split
  · rename_i stops
    exact (left?_standIn? stops).symm
  · rfl

theorem wordsRead_of_none (dropped : ∀ word, stopWords.contains word = true →
      standIn? normalizer vocabulary stopWords word = none) :
    wordsRead normalizer vocabulary stopWords tokens = textsOf (stopWords.filter tokens) := by
  rw [wordsRead, textsOf_filter, ← List.filterMap_eq_filter]
  refine List.filterMap_congr fun word _ => ?_
  cases stops : stopWords.contains word with
  | true => simp [Option.guard, stops, dropped word stops]
  | false => simp [Option.guard, stops]

end Analysis

namespace Vectorizer

def SameRow (vectorizer : Vectorizer) (document other : String) : Prop :=
  ∃ row, ∀ texts matrix (d : Nat), vectorizer.transform texts = .ok matrix →
    texts[d]? = some document ∨ texts[d]? = some other → matrix.row d = .ok row

theorem sameRow_of_terms (trained : Trained config normalizer vocabulary vectorizer)
    (given : vectorizer.terms (some vocabulary) document = .ok terms)
    (same : vectorizer.terms (some vocabulary) other = .ok terms) : vectorizer.SameRow document other := by
  refine ⟨SparseMatrix.storedEntries (countRow vocabulary terms), fun texts matrix d counted there => ?_⟩
  rcases there with here | there
  · obtain ⟨row, stored, found⟩ := trained.row_transform counted here
    rw [storedRow, given] at stored
    cases stored
    exact found
  · obtain ⟨row, stored, found⟩ := trained.row_transform counted there
    rw [storedRow, same] at stored
    cases stored
    exact found

theorem Learns.exists_terms {pattern : Pattern} {stopWords : Option StopWords}
    (learns : Learns config normalizer corpus vectorizer)
    (analysis : vectorizer.analysis = .words pattern stopWords least most) (vocabulary? : Option Vocabulary)
    (document : String) : ∃ terms, vectorizer.terms vocabulary? document = .ok terms := by
  obtain ⟨vocabulary, trained, learned⟩ := learns.trained
  obtain ⟨term, column, found⟩ := trained.numbered.exists_index?
  obtain ⟨_, _, terms, given, _⟩ := exists_document_of_learned learned found
  simp only [Vectorizer.terms, analysis, Analysis.terms, mapError_eq_ok_iff] at given ⊢
  exact wordGrams_of_ok given _

-- Nothing counts of a document but the words that are read, in whatever texts it stands. Stop words are among them
-- only where the marker stands in for them: it is put in before stop words are dropped.
theorem stop_words_uncounted (words : config.analyzer = .word) (stopping : config.stopWords = some stopWords)
    (learns : Learns config normalizer corpus vectorizer) :
    ∃ pattern vocabulary,
      vectorizer.analysis = .words pattern (some stopWords) config.leastNgram config.mostNgram ∧
      vectorizer.vocabulary = some vocabulary ∧
      (∀ texts, ∃ matrix, vectorizer.transform texts = .ok matrix) ∧
      (∀ document other,
        Analysis.wordsRead normalizer vocabulary stopWords (Analysis.wordTokens normalizer pattern document) =
          Analysis.wordsRead normalizer vocabulary stopWords (Analysis.wordTokens normalizer pattern other) →
        vectorizer.SameRow document other) ∧
      ((∀ word, stopWords.contains word = true → Analysis.standIn? normalizer vocabulary stopWords word = none) →
        ∀ document other,
          textsOf (stopWords.filter (Analysis.wordTokens normalizer pattern document)) =
            textsOf (stopWords.filter (Analysis.wordTokens normalizer pattern other)) →
          vectorizer.SameRow document other) := by
  obtain ⟨vocabulary, trained, _⟩ := learns.trained
  obtain ⟨pattern, analysis⟩ := exists_pattern words trained.analysis
  rw [stopping] at analysis
  have readAlike : ∀ document other,
      Analysis.wordsRead normalizer vocabulary stopWords (Analysis.wordTokens normalizer pattern document) =
        Analysis.wordsRead normalizer vocabulary stopWords (Analysis.wordTokens normalizer pattern other) →
      vectorizer.SameRow document other := by
    intro document other alike
    obtain ⟨terms, given⟩ := learns.exists_terms analysis (some vocabulary) document
    have left : Analysis.wordsLeft normalizer (some stopWords) (some vocabulary)
          (Analysis.wordTokens normalizer pattern other) =
        Analysis.wordsLeft normalizer (some stopWords) (some vocabulary)
          (Analysis.wordTokens normalizer pattern document) := by
      rw [Analysis.wordsLeft_eq_wordsRead, Analysis.wordsLeft_eq_wordsRead, alike]
    have same : vectorizer.terms (some vocabulary) other = vectorizer.terms (some vocabulary) document := by
      rw [Analysis.wordsLeft, Analysis.wordsLeft] at left
      rw [Vectorizer.terms, Vectorizer.terms, analysis, trained.normalizer_eq, Analysis.terms, Analysis.terms, left]
    exact sameRow_of_terms trained given (same.trans given)
  refine ⟨pattern, vocabulary, analysis, trained.fitted, ?_, readAlike, ?_⟩
  · intro texts
    obtain ⟨rows, _, transformed⟩ := trained.transform_of_terms fun text (_ : text ∈ texts) =>
      learns.exists_terms analysis (some vocabulary) text
    exact ⟨_, transformed⟩
  · intro dropped document other alike
    refine readAlike document other ?_
    rw [Analysis.wordsRead_of_none dropped, Analysis.wordsRead_of_none dropped, alike]

def stoppedLetters : Config := { ofLetters 1 2 with stopWords := some (.custom ["s"]) }

theorem stoppedLetters_uncounted :
    (stoppedLetters.analyzer = .word ∧ stoppedLetters.stopWords = some (.custom ["s"])) ∧
    ∃ vectorizer, Learns stoppedLetters (Normalizer.ofConfig stoppedLetters).1 ["o c"] vectorizer ∧
      (∃ matrix, vectorizer.transform ["c s", "c o"] = .ok matrix) ∧ vectorizer.SameRow "c s" "c o" := by
  obtain ⟨vectorizer, pattern, vocabulary, learns, analysis, fitted, alike⟩ : ∃ vectorizer pattern vocabulary,
      Learns stoppedLetters (Normalizer.ofConfig stoppedLetters).1 ["o c"] vectorizer ∧
      vectorizer.analysis = .words pattern (some (.custom ["s"])) 1 2 ∧ vectorizer.vocabulary = some vocabulary ∧
      Analysis.wordsRead (Normalizer.ofConfig stoppedLetters).1 vocabulary (.custom ["s"])
          (Analysis.wordTokens (Normalizer.ofConfig stoppedLetters).1 pattern "c s") =
        Analysis.wordsRead (Normalizer.ofConfig stoppedLetters).1 vocabulary (.custom ["s"])
          (Analysis.wordTokens (Normalizer.ofConfig stoppedLetters).1 pattern "c o") :=
    ⟨_, _, _, ⟨_, _, rfl, rfl, rfl⟩, rfl, rfl, by decide +kernel⟩
  obtain ⟨_, _, sameAnalysis, sameVocabulary, counts, readAlike, _⟩ := stop_words_uncounted rfl rfl learns
  cases analysis.symm.trans sameAnalysis
  cases fitted.symm.trans sameVocabulary
  exact ⟨⟨rfl, rfl⟩, vectorizer, learns, counts _, readAlike _ _ alike⟩

-- A stop word is counted as the marker, for it is not in the vocabulary. Without it nothing is left of the text.
theorem stop_word_marked :
    (stoppedLetters.validate = .ok () ∧ stoppedLetters.analyzer = .word ∧
      stoppedLetters.stopWords = some (.custom ["s"])) ∧
    ∃ vectorizer pattern marked blank, Learns stoppedLetters (Normalizer.ofConfig stoppedLetters).1 ["o c"] vectorizer ∧
      vectorizer.analysis = .words pattern (some (.custom ["s"])) 1 2 ∧
      textsOf ((StopWords.custom ["s"]).filter (Analysis.wordTokens vectorizer.normalizer pattern "s")) =
        textsOf ((StopWords.custom ["s"]).filter (Analysis.wordTokens vectorizer.normalizer pattern "")) ∧
      vectorizer.transform ["s"] = .ok marked ∧ vectorizer.transform [""] = .ok blank ∧
      marked.row 0 = .ok [(1, 1)] ∧ blank.row 0 = .ok [] := by
  refine ⟨⟨rfl, rfl, rfl⟩, _, _, _, _, ⟨_, _, rfl, rfl, rfl⟩, rfl, ?_, rfl, rfl, ?_, ?_⟩ <;> decide +kernel

end Vectorizer

end TextFeatures
