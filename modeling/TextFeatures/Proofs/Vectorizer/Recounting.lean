import TextFeatures.Proofs.Normalizer
import TextFeatures.Proofs.Vectorizer

namespace TextFeatures

variable {config : Config} {normalizer : Normalizer} {vocabulary? : Option Vocabulary} {tokens : List Token}
  {analysis : Analysis} {term document : String} {corpus : List String} {documents : List (List String)}
  {lemmatizers : List Lemmatizer} {vectorizer : Vectorizer}

namespace Analysis

theorem substitute_of_unmarked (unmarked : normalizer.oovMarker = none) :
    substitute normalizer vocabulary? tokens = tokens := by
  unfold substitute Normalizer.substituteTraining Normalizer.substituteUnseen
  cases vocabulary? <;> simp [unmarked]

-- Without a marker the terms of a text are the same before there is a vocabulary and afterwards. Grams never have
-- a marker among them.
theorem terms_of_unmarked (unmarked : analysis.analyzer = .word → normalizer.oovMarker = none) :
    analysis.terms normalizer vocabulary? document = analysis.terms normalizer none document := by
  cases analysis with
  | grams sizes => rfl
  | words pattern stopWords least most =>
    have same := unmarked rfl
    rw [terms, terms, substitute_of_unmarked same, substitute_of_unmarked same]

end Analysis

-- What a column of counts tells of the term that it belongs to: in how many documents the term is found, and how
-- often in all of them together, just as it was counted when the vocabulary was built.
structure Recounts (config : Config) (documents : List (List String)) (term : String) (counts : List Nat) : Prop where
  frequency : (Vocabulary.documentFrequencies documents).get? term = some (counts.countP (0 < ·))
  least : config.leastFrequency.resolve documents.length ≤ Float.ofNat (counts.countP (0 < ·))
  most : Float.ofNat (counts.countP (0 < ·)) ≤ config.mostFrequency.resolve documents.length
  total : (Vocabulary.termFrequencies documents).get? term = some counts.sum
  occurs : ∃ count ∈ counts, 0 < count

theorem Vocabulary.recounts_of_build {vocabulary : Vocabulary} {column : Nat}
    (built : build documents (.ofConfig config) = .ok vocabulary) (found : vocabulary.index? term = some column) :
    Recounts config documents term (documents.map (List.count term)) := by
  obtain ⟨frequency, counted, least, most⟩ := within_of_build built found
  have occurring := exists_mem_of_build built found
  have inDocuments : (documents.map (List.count term)).countP (0 < ·) = documents.countP (term ∈ ·) := by
    rw [List.countP_map]
    exact List.countP_congr fun terms _ => by simp [List.count_pos_iff]
  rw [get?_documentFrequencies occurring, Option.some.injEq, ← inDocuments] at counted
  subst counted
  refine ⟨?_, least, most, get?_termFrequencies occurring, ?_⟩
  · rw [get?_documentFrequencies occurring, inDocuments]
  · obtain ⟨terms, member, inside⟩ := occurring
    exact ⟨_, List.mem_map_of_mem member, List.count_pos_iff.mpr inside⟩

namespace Vectorizer

-- Where no marker takes the place of words, counting the corpus gives what was counted to learn from it.
theorem learned_counts_recur (accepted : config.validate = .ok ())
    (unmarked : config.analyzer = .word → config.oovMarker = none)
    (learns : Learns config ((Normalizer.ofConfig config).1.lemmatizedBy lemmatizers) corpus vectorizer) :
    ∃ vocabulary documents matrix,
      vectorizer.vocabulary = some vocabulary ∧ corpus.mapM (vectorizer.terms none) = .ok documents ∧
      vectorizer.transform corpus = .ok matrix ∧
      (∀ (d : Nat) document term column, corpus[d]? = some document → vocabulary.index? term = some column →
        ∃ terms, vectorizer.terms none document = .ok terms ∧ matrix.get d column = .ok (terms.count term)) ∧
      ∀ term column, vocabulary.index? term = some column →
        matrix.column column = .ok (documents.map (List.count term)) ∧
          Recounts config documents term (documents.map (List.count term)) := by
  obtain ⟨vocabulary, trained, learned⟩ := learns.trained
  obtain ⟨documents, analyzed, built⟩ := bind_eq_ok_iff.mp learned
  rw [trained.bounds_eq, mapError_eq_ok_iff] at built
  have sameTerms : vectorizer.terms (some vocabulary) = vectorizer.terms none := by
    refine funext fun document => congrArg (Except.mapError _) (Analysis.terms_of_unmarked fun words => ?_)
    rw [Analysis.analyzer_ofConfig trained.analysis] at words
    rw [trained.normalizer_eq, Normalizer.oovMarker_lemmatizedBy, Normalizer.oovMarker_ofConfig, unmarked words]
    rfl
  obtain ⟨rows, _, transformed⟩ := trained.exists_transform accepted corpus
  refine ⟨vocabulary, documents, _, trained.fitted, analyzed, transformed, ?_, ?_⟩
  · intro d document term column there found
    obtain ⟨terms, given, counted⟩ := trained.get_transform transformed there found
    rw [sameTerms] at given
    exact ⟨terms, given, counted⟩
  · intro term column found
    have again : corpus.mapM (vectorizer.terms (some vocabulary)) = .ok documents := by rw [sameTerms, analyzed]
    exact ⟨trained.column_transform transformed again found, Vocabulary.recounts_of_build built found⟩

-- Letters and pairs of letters that are found in two texts at least. One letter is a stop word.
def pairedLetters : Config :=
  { Config.default with
    tokenPattern := "[a-z]", lowercase := false, stopWords := some (.custom ["s"]), mostNgram := 2,
    leastFrequency := .count 2 }

theorem pairedLetters_recur :
    (pairedLetters.validate = .ok () ∧ (pairedLetters.analyzer = .word → pairedLetters.oovMarker = none)) ∧
    ∃ vectorizer vocabulary matrix,
      Learns pairedLetters (Normalizer.ofConfig pairedLetters).1 ["a s b", "c a b a", "s"] vectorizer ∧
      vectorizer.vocabulary = some vocabulary ∧ vocabulary.index? "a b" = some 1 ∧
      vectorizer.transform ["a s b", "c a b a", "s"] = .ok matrix ∧
      ∃ documents, matrix.column 1 = .ok (documents.map (List.count "a b")) ∧
        Recounts pairedLetters documents "a b" (documents.map (List.count "a b")) := by
  have accepted : pairedLetters.validate = .ok () := rfl
  have unmarked : pairedLetters.analyzer = .word → pairedLetters.oovMarker = none := fun _ => rfl
  obtain ⟨vectorizer, learns, known⟩ : ∃ vectorizer,
      Learns pairedLetters ((Normalizer.ofConfig pairedLetters).1.lemmatizedBy []) ["a s b", "c a b a", "s"] vectorizer ∧
        vectorizer.vocabulary.bind (·.index? "a b") = some 1 :=
    ⟨_, ⟨_, _, rfl, rfl, rfl⟩, by decide +kernel⟩
  obtain ⟨vocabulary, documents, matrix, fitted, _, transformed, _, columns⟩ :=
    learned_counts_recur accepted unmarked learns
  rw [fitted] at known
  exact ⟨⟨accepted, unmarked⟩, vectorizer, vocabulary, matrix, learns, fitted, known, transformed, documents,
    columns "a b" 1 known⟩

end Vectorizer

end TextFeatures
