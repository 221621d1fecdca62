import TextFeatures.Proofs.Normalizer
import TextFeatures.Proofs.Text.Occurrences
import TextFeatures.Proofs.Tokens.Words
import TextFeatures.Proofs.Vectorizer.Marking

namespace TextFeatures
open Unicode Text

variable {config : Config} {normalizer : Normalizer} {pattern : Pattern} {marker document text : String}
  {corpus : List String} {stopWords : Option StopWords} {tokens : List Token} {vectorizer : Vectorizer}

namespace Normalizer

-- What is searched for is the marker as it is written: in the texts as they are, and in lowercase where case is folded.
theorem markerPresent_eq_false_iff (marked : normalizer.oovMarker = some marker) :
    normalizer.markerPresent corpus = false ↔ normalizer.oovWords = [] ∧ ∀ text ∈ corpus,
      ¬marker.toList <:+: text.toList ∧
        (normalizer.lowercase = true → ¬marker.toList <:+: (Unicode.lowercase text).toList) := by
  simp only [markerPresent, marked, mentions, Bool.or_eq_false_iff, Bool.not_eq_false', List.isEmpty_iff,
    List.any_eq_false, Bool.or_eq_true, Bool.and_eq_true, occursIn_iff, not_or, not_and]

theorem not_infix_of_absent (marked : normalizer.oovMarker = some marker)
    (absent : normalizer.markerPresent corpus = false) (among : text ∈ corpus) :
    ¬marker.toList <:+: (foldCase normalizer.lowercase text).toList := by
  obtain ⟨asWritten, inLowercase⟩ := ((markerPresent_eq_false_iff marked).mp absent).2 text among
  unfold foldCase
  split
  · rename_i lowercased
    exact inLowercase lowercased
  · exact asWritten

end Normalizer

-- The words of a document that are left without stop words, none of them put in for another.
def plainWordsOf (config : Config) (pattern : Pattern) (document : String) : List String :=
  textsOf (Analysis.dropStopWords config.stopWords
    (Analysis.wordTokens (Normalizer.ofConfig config).1 pattern document))

-- How a marker comes into the terms of a document that it is not written in. Either it is a word of the document, for
-- accents were stripped or a number was replaced, or several words that stand in a row are joined to it.
inductive Arises (config : Config) (pattern : Pattern) (marker document : String) : Prop where
  | stripped {mode : AccentStripping} (word : marker ∈ plainWordsOf config pattern document)
      (strips : config.stripAccents = some mode)
      (occurs : marker.toList <:+: (mode.strip (Normalizer.foldCase config.lowercase document)).toList)
  | replaced (word : marker ∈ plainWordsOf config pattern document)
      (numbered : ∃ run ∈ runs isWord ((Normalizer.ofConfig config).1.preprocess document).toList,
        Pattern.isNumber run = true)
      (shares : '_' ∈ marker.toList ∨ marker.toList <:+: Pattern.numberName)
  | joined {words : List String} (row : words <:+: plainWordsOf config pattern document) (several : 2 ≤ words.length)
      (least : config.leastNgram ≤ words.length) (most : words.length ≤ config.mostNgram)
      (spelled : joined words = marker)

-- In these cases no text can be taken for the marker but the marker itself.
structure Literal (config : Config) (marker : String) : Prop where
  unstripped : config.stripAccents = none
  plain : '_' ∉ marker.toList
  unnumbered : ¬marker.toList <:+: Pattern.numberName
  unbroken : config.mostNgram = 1 ∨ ' ' ∉ marker.toList

theorem Literal.not_arises (literal : Literal config marker) : ¬Arises config pattern marker document := by
  intro arises
  cases arises with
  | stripped _ strips _ => exact absurd (literal.unstripped.symm.trans strips) (Option.some_ne_none _).symm
  | replaced _ _ shares => exact shares.elim literal.plain literal.unnumbered
  | joined _ several _ most spelled =>
    rcases literal.unbroken with single | unbroken
    · omega
    · rw [← spelled] at unbroken
      exact unbroken (space_mem_joined several)

namespace Analysis

theorem wordsLeft_of_unlisted (unlisted : normalizer.oovWords = []) :
    wordsLeft normalizer stopWords none tokens = textsOf (dropStopWords stopWords tokens) := by
  have kept (token : Token) : substituted normalizer none token = token := by
    unfold substituted
    cases normalizer.oovMarker with
    | none => rfl
    | some marker => simp [unlisted]
  rw [wordsLeft, substitute_eq_map, List.map_id'' kept]

theorem dropStopWords_sublist : (dropStopWords stopWords tokens).Sublist tokens := by
  cases stopWords with
  | none => exact .refl _
  | some stopWords => exact List.filter_sublist

theorem arises_of_word (unwritten : ¬marker.toList <:+: (Normalizer.foldCase config.lowercase document).toList)
    (word : marker ∈ plainWordsOf config pattern document) : Arises config pattern marker document := by
  obtain ⟨token, left, rfl⟩ := List.mem_map.mp word
  have occurs := Pattern.infix_of_mem_tokens (dropStopWords_sublist.subset left)
  rcases Pattern.infix_of_infix_collapseNumbers occurs with before | ⟨numbered, shares⟩
  · rw [Normalizer.preprocess_ofConfig] at before
    cases strips : config.stripAccents with
    | none =>
      rw [strips] at before
      exact absurd before unwritten
    | some mode =>
      rw [strips] at before
      exact .stripped word strips before
  · exact .replaced word numbered shares

theorem arises_of_gram (positive : config.leastNgram ≠ 0)
    (unwritten : ¬marker.toList <:+: (Normalizer.foldCase config.lowercase document).toList)
    (gram : marker ∈ gramsOf config.leastNgram config.mostNgram (plainWordsOf config pattern document)) :
    Arises config pattern marker document := by
  rcases of_mem_gramsOf positive gram with word | ⟨words, row, several, least, most, spelled⟩
  · exact arises_of_word unwritten word
  · exact .joined row several least most spelled

end Analysis

namespace Vectorizer

-- Where the search for the marker fails, training does not find it either, unless it arises in a document.
theorem unlearned_of_absent (accepted : config.validate = .ok ()) (words : config.analyzer = .word)
    (marked : (Normalizer.ofConfig config).1.oovMarker = some marker)
    (learns : Learns config (Normalizer.ofConfig config).1 corpus vectorizer)
    (absent : (Normalizer.ofConfig config).1.markerPresent corpus = false) :
    ∃ pattern vocabulary, Pattern.compile config.tokenPattern = .ok pattern ∧ vectorizer.vocabulary = some vocabulary ∧
      (vocabulary.contains marker = true → ∃ document ∈ corpus, Arises config pattern marker document) ∧
      (Literal config marker → vocabulary.contains marker = false) := by
  obtain ⟨vocabulary, trained, learned⟩ := learns.trained
  obtain ⟨pattern, compiled, analysis⟩ := exists_compiled words trained.analysis
  have arises : vocabulary.contains marker = true → ∃ document ∈ corpus, Arises config pattern marker document := by
    intro present
    obtain ⟨column, found⟩ := Option.isSome_iff_exists.mp present
    obtain ⟨document, among, terms, given, occurs⟩ := exists_document_of_learned learned found
    obtain ⟨unlisted, _⟩ := (Normalizer.markerPresent_eq_false_iff marked).mp absent
    have unwritten := Normalizer.not_infix_of_absent marked absent among
    rw [terms_of_words accepted analysis, trained.normalizer_eq, Analysis.wordsLeft_of_unlisted unlisted] at given
    obtain rfl := Except.ok.inj given
    rw [Normalizer.lowercase_ofConfig] at unwritten
    obtain ⟨positive, _⟩ := Config.checkSizes_eq_ok (Config.validate_eq_ok_iff.mp accepted).1
    exact ⟨document, among, Analysis.arises_of_gram positive unwritten occurs⟩
  refine ⟨pattern, vocabulary, compiled, trained.fitted, arises, fun literal => ?_⟩
  rw [Bool.eq_false_iff]
  intro present
  obtain ⟨document, _, arisen⟩ := arises present
  exact literal.not_arises arisen

def markedOnly (marker : String) : Config := { Config.default with oovMarker := some marker }

theorem greeting_unmarked :
    ((markedOnly "OOV").validate = .ok () ∧ (markedOnly "OOV").analyzer = .word ∧
      (Normalizer.ofConfig (markedOnly "OOV")).1.oovMarker = some "oov" ∧
      (Normalizer.ofConfig (markedOnly "OOV")).1.markerPresent ["Good day"] = false) ∧
    ∃ vectorizer vocabulary, Learns (markedOnly "OOV") (Normalizer.ofConfig (markedOnly "OOV")).1 ["Good day"]
        vectorizer ∧
      vectorizer.vocabulary = some vocabulary ∧ vocabulary.contains "oov" = false := by
  have marked : (Normalizer.ofConfig (markedOnly "OOV")).1.oovMarker = some "oov" := by decide +kernel
  have absent : (Normalizer.ofConfig (markedOnly "OOV")).1.markerPresent ["Good day"] = false := by decide +kernel
  have learned : learned? (markedOnly "OOV") (Normalizer.ofConfig (markedOnly "OOV")).1 ["Good day"] =
      some (.ofTerms ["day", "good"]) := by decide +kernel
  have literal : Literal (markedOnly "OOV") "oov" := ⟨rfl, by decide, by decide, .inl rfl⟩
  obtain ⟨vectorizer, learns, _⟩ := exists_learns_of_learned learned
  obtain ⟨_, vocabulary, _, fitted, _, unlearned⟩ := unlearned_of_absent rfl rfl marked learns absent
  exact ⟨⟨rfl, rfl, marked, absent⟩, vectorizer, vocabulary, learns, fitted, unlearned literal⟩

-- A marker that is learned although the search for it fails.
def FalselyMissed (config : Config) (marker : String) (corpus : List String) : Prop :=
  ∃ vectorizer vocabulary, (config.validate = .ok () ∧ config.analyzer = .word ∧ config.oovWords = []) ∧
    (Normalizer.ofConfig config).1.oovMarker = some marker ∧
    (Normalizer.ofConfig config).1.markerPresent corpus = false ∧
    Learns config (Normalizer.ofConfig config).1 corpus vectorizer ∧
    vectorizer.vocabulary = some vocabulary ∧ vocabulary.contains marker = true

theorem falselyMissed_of_learned (vocabulary : Vocabulary) (accepted : config.validate = .ok ())
    (words : config.analyzer = .word) (unlisted : config.oovWords = [])
    (marked : (Normalizer.ofConfig config).1.oovMarker = some marker)
    (absent : (Normalizer.ofConfig config).1.markerPresent corpus = false)
    (learned : learned? config (Normalizer.ofConfig config).1 corpus = some vocabulary)
    (present : vocabulary.contains marker = true) : FalselyMissed config marker corpus := by
  obtain ⟨vectorizer, learns, fitted⟩ := exists_learns_of_learned learned
  exact ⟨vectorizer, vocabulary, ⟨accepted, words, unlisted⟩, marked, absent, learns, fitted, present⟩

-- Each way in which a marker arises is a way in which it is learned: out of an accented letter, of a number, and of
-- words with a comma between them.
theorem arisen_markers_missed :
    FalselyMissed { markedOnly "oov" with stripAccents := some .ascii } "oov" ["öov"] ∧
    FalselyMissed { markedOnly "__NUMBER__" with lowercase := false } "__NUMBER__" ["room 12"] ∧
    FalselyMissed { markedOnly "new york" with mostNgram := 2 } "new york" ["new, york"] := by
  refine ⟨?stripped, ?replaced, ?joined⟩
  case stripped =>
    refine falselyMissed_of_learned (.ofTerms ["oov"]) rfl rfl rfl ?_ ?_ ?_ ?_ <;> decide +kernel
  case replaced =>
    refine falselyMissed_of_learned (.ofTerms ["__NUMBER__", "room"]) rfl rfl rfl ?_ ?_ ?_ ?_ <;> decide +kernel
  case joined =>
    refine falselyMissed_of_learned (.ofTerms ["new", "new york", "york"]) rfl rfl rfl ?_ ?_ ?_ ?_ <;> decide +kernel

end Vectorizer

end TextFeatures
