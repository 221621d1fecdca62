import TextFeatures.Proofs.Tokens.WordGrams
import TextFeatures.Proofs.Vectorizer

namespace TextFeatures

variable {config : Config} {normalizer : Normalizer} {vocabulary? : Option Vocabulary} {vocabulary : Vocabulary}
  {stopWords : Option StopWords} {token : Token} {tokens : List Token} {stretches : List (List Token)}
  {least most : Nat} {term document : String} {corpus : List String} {pattern : Pattern} {vectorizer : Vectorizer}

namespace Analysis

def substituted (normalizer : Normalizer) (vocabulary? : Option Vocabulary) (token : Token) : Token :=
  match normalizer.oovMarker, vocabulary? with
  | none, _ => token
  | some marker, none => if normalizer.oovWords.contains token.text then { token with text := marker } else token
  | some marker, some vocabulary =>
    if vocabulary.contains marker && !vocabulary.contains token.text then { token with text := marker } else token

-- A word that comes out alike in training and afterwards.
def Settled (normalizer : Normalizer) (vocabulary : Vocabulary) (token : Token) : Prop :=
  substituted normalizer none token = substituted normalizer (some vocabulary) token

instance : DecidablePred (Settled normalizer vocabulary) := fun token =>
  inferInstanceAs (Decidable (substituted normalizer none token = substituted normalizer (some vocabulary) token))

def wordsLeft (normalizer : Normalizer) (stopWords : Option StopWords) (vocabulary? : Option Vocabulary)
    (tokens : List Token) : List String :=
  textsOf (dropStopWords stopWords (substitute normalizer vocabulary? tokens))

theorem substitute_eq_map : substitute normalizer vocabulary? tokens = tokens.map (substituted normalizer vocabulary?) := by
  unfold substitute substituted Normalizer.substituteTraining Normalizer.substituteUnseen
  cases normalizer.oovMarker with
  | none => cases vocabulary? <;> simp
  | some marker =>
    cases vocabulary? with
    | none => rfl
    | some vocabulary =>
      cases present : vocabulary.contains marker with
      | false => simp [present]
      | true =>
        simp only [present, if_true, Bool.true_and]
        refine List.map_congr_left fun token _ => ?_
        cases vocabulary.contains token.text <;> rfl

theorem wordsLeft_flatten :
    wordsLeft normalizer stopWords vocabulary? stretches.flatten =
      (stretches.map (wordsLeft normalizer stopWords vocabulary?)).flatten := by
  unfold wordsLeft textsOf
  simp only [substitute_eq_map]
  cases stopWords with
  | none => simp [dropStopWords, List.map_flatten]
  | some stopWords => simp [dropStopWords, StopWords.filter, List.map_flatten, List.filter_flatten, Function.comp_def]

theorem wordsLeft_of_settled (settled : ∀ token ∈ tokens, Settled normalizer vocabulary token) :
    wordsLeft normalizer stopWords none tokens = wordsLeft normalizer stopWords (some vocabulary) tokens := by
  rw [wordsLeft, wordsLeft, substitute_eq_map, substitute_eq_map, List.map_congr_left settled]

-- What training makes of stretches of a document, as far as every word in a stretch is settled.
def settledGrams (normalizer : Normalizer) (vocabulary : Vocabulary) (stopWords : Option StopWords) (least most : Nat)
    (stretches : List (List Token)) : List String :=
  (stretches.filter fun stretch => ∀ token ∈ stretch, Settled normalizer vocabulary token).flatMap fun stretch =>
    gramsOf least most (wordsLeft normalizer stopWords none stretch)

theorem count_settledGrams_le : (settledGrams normalizer vocabulary stopWords least most stretches).count term ≤
    (gramsOf least most (wordsLeft normalizer stopWords (some vocabulary) stretches.flatten)).count term := by
  have ofSettled : List.Sublist (settledGrams normalizer vocabulary stopWords least most stretches)
      ((stretches.filter fun stretch => ∀ token ∈ stretch, Settled normalizer vocabulary token).flatMap fun stretch =>
        gramsOf least most (wordsLeft normalizer stopWords (some vocabulary) stretch)) := by
    refine List.Sublist.flatMap_right _ fun stretch member => ?_
    rw [wordsLeft_of_settled (by simpa using List.of_mem_filter member)]
  have ofAll := (ofSettled.trans (List.filter_sublist.flatMap _)).count_le term
  rw [wordsLeft_flatten]
  refine Nat.le_trans ofAll ?_
  rw [← List.flatMap_map]
  exact count_flatMap_gramsOf_le

theorem count_wordsLeft : (wordsLeft normalizer stopWords vocabulary? tokens).count term =
    tokens.countP fun token => (substituted normalizer vocabulary? token).text == term &&
      !(stopWords.any (·.contains term)) := by
  unfold wordsLeft textsOf
  rw [substitute_eq_map, List.count, List.countP_map]
  cases stopWords with
  | none =>
    rw [dropStopWords, List.countP_map]
    exact List.countP_congr fun token _ => by simp
  | some stopWords =>
    rw [dropStopWords, StopWords.filter, List.countP_filter, List.countP_map]
    refine List.countP_congr fun token _ => ?_
    simp only [Function.comp_apply, Option.any_some, Bool.and_eq_true, beq_iff_eq]
    constructor <;> rintro ⟨same, kept⟩ <;> simp_all

theorem exists_token_of_mem (left : term ∈ wordsLeft normalizer stopWords vocabulary? tokens) :
    ∃ token ∈ tokens, (substituted normalizer vocabulary? token).text = term := by
  have counted := List.count_pos_iff.mpr left
  rw [count_wordsLeft, List.countP_pos_iff] at counted
  obtain ⟨token, member, same⟩ := counted
  simp only [Bool.and_eq_true, beq_iff_eq] at same
  exact ⟨token, member, same.1⟩

theorem count_wordsLeft_le (kept : ∀ token ∈ tokens, (substituted normalizer none token).text = term →
      (substituted normalizer (some vocabulary) token).text = term) :
    (wordsLeft normalizer stopWords none tokens).count term ≤
      (wordsLeft normalizer stopWords (some vocabulary) tokens).count term := by
  rw [count_wordsLeft, count_wordsLeft]
  refine List.countP_mono_left fun token member => ?_
  simp only [Bool.and_eq_true, beq_iff_eq]
  exact fun ⟨same, unstopped⟩ => ⟨kept token member same, unstopped⟩

-- Training leaves no configured word behind, unless it is the marker itself.
theorem ne_of_configured {marker : String} (marked : normalizer.oovMarker = some marker)
    (configured : normalizer.oovWords.contains term = true) (other : term ≠ marker) :
    (substituted normalizer none token).text ≠ term := by
  simp only [substituted, marked]
  split
  · exact other.symm
  · rename_i unlisted
    rintro rfl
    exact unlisted configured

-- A word that training leaves and that is in the vocabulary is left afterwards, and one that it marks is marked
-- again, as long as no configured word is in the vocabulary.
theorem substituted_again (learned : vocabulary.contains term = true)
    (unlisted : ∀ marker, normalizer.oovMarker = some marker → ∀ word, normalizer.oovWords.contains word = true →
      word ≠ marker → vocabulary.contains word = false)
    (trained : (substituted normalizer none token).text = term) :
    (substituted normalizer (some vocabulary) token).text = term := by
  unfold substituted at trained ⊢
  cases marked : normalizer.oovMarker with
  | none => simpa [marked] using trained
  | some marker =>
    simp only [marked] at trained ⊢
    cases configured : normalizer.oovWords.contains token.text with
    | true =>
      simp only [configured, if_true] at trained
      subst trained
      by_cases same : token.text = marker
      · split
        · rfl
        · exact same
      · simp [learned, unlisted marker marked token.text configured same]
    | false =>
      simp only [configured, Bool.false_eq_true, if_false] at trained
      simp [trained, learned]

end Analysis

namespace Vectorizer

theorem exists_compiled (words : config.analyzer = .word)
    (configured : Analysis.ofConfig config = .ok vectorizer.analysis) :
    ∃ pattern, Pattern.compile config.tokenPattern = .ok pattern ∧
      vectorizer.analysis = .words pattern config.stopWords config.leastNgram config.mostNgram := by
  unfold Analysis.ofConfig at configured
  rw [words] at configured
  dsimp only at configured
  split at configured
  · cases configured
  · rename_i pattern compiled
    exact ⟨pattern, compiled, (Except.ok.inj configured).symm⟩

theorem exists_pattern (words : config.analyzer = .word)
    (configured : Analysis.ofConfig config = .ok vectorizer.analysis) :
    ∃ pattern, vectorizer.analysis = .words pattern config.stopWords config.leastNgram config.mostNgram := by
  obtain ⟨pattern, _, analysis⟩ := exists_compiled words configured
  exact ⟨pattern, analysis⟩

theorem terms_of_words (accepted : config.validate = .ok ())
    (analysis : vectorizer.analysis = .words pattern config.stopWords config.leastNgram config.mostNgram) :
    vectorizer.terms vocabulary? document = .ok (gramsOf config.leastNgram config.mostNgram
      (Analysis.wordsLeft vectorizer.normalizer config.stopWords vocabulary?
        (Analysis.wordTokens vectorizer.normalizer pattern document))) := by
  obtain ⟨positive, ordered⟩ := Config.checkSizes_eq_ok (Config.validate_eq_ok_iff.mp accepted).1
  rw [terms, analysis, Analysis.terms, ← ok_mapError, ← wordGrams_eq_ok positive ordered]
  rfl

theorem exists_document_of_learned (learned : vectorizer.learn corpus = .ok vocabulary) {column : Nat}
    (found : vocabulary.index? term = some column) :
    ∃ document ∈ corpus, ∃ trained, vectorizer.terms none document = .ok trained ∧ term ∈ trained := by
  obtain ⟨documents, analyzed, built⟩ := bind_eq_ok_iff.mp learned
  obtain ⟨trained, member, occurs⟩ := Vocabulary.exists_mem_of_build (mapError_eq_ok_iff.mp built) found
  obtain ⟨document, among, given⟩ := exists_of_mem_mapM analyzed member
  exact ⟨document, among, trained, given, occurs⟩

theorem contains_configured (accepted : config.validate = .ok ()) (single : config.mostNgram = 1)
    (analysis : vectorizer.analysis = .words pattern config.stopWords config.leastNgram config.mostNgram)
    (learned : vectorizer.learn corpus = .ok vocabulary) {marker : String}
    (marked : vectorizer.normalizer.oovMarker = some marker)
    (configured : vectorizer.normalizer.oovWords.contains term = true) (other : term ≠ marker) :
    vocabulary.contains term = false := by
  by_contra present
  obtain ⟨column, found⟩ := Option.isSome_iff_exists.mp (Bool.not_eq_false _ ▸ present)
  obtain ⟨document, _, trained, given, occurs⟩ := exists_document_of_learned learned found
  rw [terms_of_words accepted analysis] at given
  obtain rfl := Except.ok.inj given
  rw [gramsOf, if_pos single] at occurs
  obtain ⟨token, _, same⟩ := Analysis.exists_token_of_mem occurs
  exact Analysis.ne_of_configured marked configured other same

theorem count_single_le (accepted : config.validate = .ok ()) (single : config.mostNgram = 1)
    (analysis : vectorizer.analysis = .words pattern config.stopWords config.leastNgram config.mostNgram)
    (learned : vectorizer.learn corpus = .ok vocabulary) (known : vocabulary.contains term = true) :
    (gramsOf least config.mostNgram (Analysis.wordsLeft vectorizer.normalizer stopWords none tokens)).count term ≤
      (gramsOf least config.mostNgram
        (Analysis.wordsLeft vectorizer.normalizer stopWords (some vocabulary) tokens)).count term := by
  rw [gramsOf, if_pos single, gramsOf, if_pos single]
  refine Analysis.count_wordsLeft_le fun token _ => Analysis.substituted_again known ?_
  exact fun marker marked word configured other =>
    contains_configured accepted single analysis learned marked configured other

-- Terms of single words are counted as often as they occur in training. Grams are for certain where every word
-- of a stretch is settled: the grams of all such stretches are counted, however a document is cut into stretches.
theorem trained_terms_counted (accepted : config.validate = .ok ()) (words : config.analyzer = .word)
    (learns : Learns config normalizer corpus vectorizer) :
    ∃ pattern vocabulary matrix,
      vectorizer.analysis = .words pattern config.stopWords config.leastNgram config.mostNgram ∧
      vectorizer.vocabulary = some vocabulary ∧ vectorizer.transform corpus = .ok matrix ∧
      (∀ (d : Nat) document term column, corpus[d]? = some document → vocabulary.index? term = some column →
        ∃ trained count, vectorizer.terms none document = .ok trained ∧ matrix.get d column = .ok count ∧
          (config.mostNgram = 1 → trained.count term ≤ count) ∧
          ∀ stretches : List (List Token), stretches.flatten = Analysis.wordTokens normalizer pattern document →
            (Analysis.settledGrams normalizer vocabulary config.stopWords config.leastNgram config.mostNgram
              stretches).count term ≤ count) ∧
      (config.mostNgram = 1 → ∀ term column, vocabulary.index? term = some column →
        ∃ d count, matrix.get d column = .ok count ∧ 0 < count) := by
  obtain ⟨vocabulary, trained, learned⟩ := learns.trained
  obtain ⟨pattern, analysis⟩ := exists_pattern words trained.analysis
  obtain ⟨rows, _, transformed⟩ := trained.exists_transform accepted corpus
  refine ⟨pattern, vocabulary, _, analysis, trained.fitted, transformed, ?_, ?_⟩
  · intro d document term column there found
    obtain ⟨after, analyzed, counted⟩ := trained.get_transform transformed there found
    rw [terms_of_words accepted analysis] at analyzed
    obtain rfl := Except.ok.inj analyzed
    refine ⟨_, _, terms_of_words accepted analysis, counted, fun single => ?_, fun stretches cut => ?_⟩
    · exact count_single_le accepted single analysis learned (Option.isSome_iff_exists.mpr ⟨column, found⟩)
    · rw [trained.normalizer_eq, ← cut]
      exact Analysis.count_settledGrams_le
  · intro single term column found
    obtain ⟨document, member, before, given, occurs⟩ := exists_document_of_learned learned found
    obtain ⟨d, there⟩ := List.getElem?_of_mem member
    obtain ⟨after, analyzed, counted⟩ := trained.get_transform transformed there found
    rw [terms_of_words accepted analysis] at given analyzed
    obtain rfl := Except.ok.inj given
    obtain rfl := Except.ok.inj analyzed
    refine ⟨d, _, counted, Nat.lt_of_lt_of_le (List.count_pos_iff.mpr occurs) ?_⟩
    exact count_single_le accepted single analysis learned (Option.isSome_iff_exists.mpr ⟨column, found⟩)

def ofLetters (least most : Nat) : Config :=
  { Config.default with
    tokenPattern := "[a-z]", lowercase := false, oovMarker := some "o", oovWords := ["f"], leastNgram := least,
    mostNgram := most }

theorem letters_counted :
    ((ofLetters 1 1).validate = .ok () ∧ (ofLetters 1 1).analyzer = .word) ∧
    ∃ vectorizer vocabulary matrix, Learns (ofLetters 1 1) (Normalizer.ofConfig (ofLetters 1 1)).1 ["f c f", "c"] vectorizer ∧
      vectorizer.vocabulary = some vocabulary ∧ vectorizer.transform ["f c f", "c"] = .ok matrix ∧
      ∀ (d : Nat) document term column, ["f c f", "c"][d]? = some document → vocabulary.index? term = some column →
        ∃ trained count, vectorizer.terms none document = .ok trained ∧ matrix.get d column = .ok count ∧
          trained.count term ≤ count := by
  have accepted : (ofLetters 1 1).validate = .ok () := rfl
  obtain ⟨vectorizer, learns⟩ : ∃ vectorizer,
      Learns (ofLetters 1 1) (Normalizer.ofConfig (ofLetters 1 1)).1 ["f c f", "c"] vectorizer :=
    ⟨_, _, _, rfl, rfl, rfl⟩
  obtain ⟨_, vocabulary, matrix, _, fitted, transformed, counts, _⟩ := trained_terms_counted accepted rfl learns
  refine ⟨⟨accepted, rfl⟩, vectorizer, vocabulary, matrix, learns, fitted, transformed, ?_⟩
  intro d document term column there found
  obtain ⟨trained, count, analyzed, counted, most, _⟩ := counts d document term column there found
  exact ⟨trained, count, analyzed, counted, most rfl⟩

-- Of pairs the marker alone is no term, so that it is not put in afterwards, and no text has the pair again that it
-- was put into in training.
theorem marked_pair_lost :
    ((ofLetters 2 2).validate = .ok () ∧ (ofLetters 2 2).analyzer = .word ∧
      (Normalizer.ofConfig (ofLetters 2 2)).1.oovMarker = some "o") ∧
    ∃ vectorizer vocabulary matrix trained,
      Learns (ofLetters 2 2) (Normalizer.ofConfig (ofLetters 2 2)).1 ["f c"] vectorizer ∧
      vectorizer.vocabulary = some vocabulary ∧ vectorizer.transform ["f c"] = .ok matrix ∧
      vectorizer.terms none "f c" = .ok trained ∧ vocabulary.index? "o c" = some 0 ∧ trained.count "o c" = 1 ∧
      matrix.get 0 0 = .ok 0 := by
  refine ⟨⟨rfl, rfl, rfl⟩, _, _, _, _, ⟨_, _, rfl, rfl, rfl⟩, rfl, rfl, rfl, ?_, ?_, ?_⟩ <;> decide +kernel

end Vectorizer

end TextFeatures
