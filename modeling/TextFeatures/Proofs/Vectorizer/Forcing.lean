import TextFeatures.Proofs.Normalizer
import TextFeatures.Proofs.Vectorizer.Marking
import TextFeatures.Proofs.Vocabulary.Selection

namespace TextFeatures

variable {config : Config} {vocabulary : Vocabulary} {marker word : String} {corpus : List String}
  {documents : List (List String)} {vectorizer : Vectorizer}

-- Configured words are only brought into the case of the texts. A word is lost when accents are stripped as well: what
-- the texts have in its place is no configured word, and it is learned like any other word.
structure Lost (config : Config) (documents : List (List String)) (word : String) : Prop where
  configured : word ∈ config.oovWords
  unlisted : (Normalizer.ofConfig config).1.preprocess word ∉ config.oovWords.map (Normalizer.foldCase config.lowercase)
  unmarked : (Normalizer.ofConfig config).1.oovMarker ≠ some ((Normalizer.ofConfig config).1.preprocess word)
  kept : Vocabulary.Kept documents (.ofConfig config) ((Normalizer.ofConfig config).1.preprocess word)

theorem Lost.stripped (lost : Lost config documents word) : config.stripAccents ≠ none := by
  intro whole
  refine lost.unlisted ?_
  rw [Normalizer.preprocess_ofConfig, whole]
  exact List.mem_map_of_mem lost.configured

-- What is wanted of configured words: none of them is a term, unless it comes to the marker.
def Forced (config : Config) (vocabulary : Vocabulary) : Prop :=
  ∀ word ∈ config.oovWords, vocabulary.contains ((Normalizer.ofConfig config).1.preprocess word) = true →
    (Normalizer.ofConfig config).1.oovMarker = some ((Normalizer.ofConfig config).1.preprocess word)

namespace Vectorizer

theorem unlearned_of_listed (accepted : config.validate = .ok ()) (words : config.analyzer = .word)
    (single : config.mostNgram = 1) (marked : config.oovMarker = some marker)
    (trained : Trained config (Normalizer.ofConfig config).1 vocabulary vectorizer)
    (learned : vectorizer.learn corpus = .ok vocabulary)
    (listed : word ∈ config.oovWords.map (Normalizer.foldCase config.lowercase))
    (unmarked : (Normalizer.ofConfig config).1.oovMarker ≠ some word) : vocabulary.contains word = false := by
  obtain ⟨pattern, analysis⟩ := exists_pattern words trained.analysis
  have oovMarker : vectorizer.normalizer.oovMarker = some (Normalizer.foldCase config.lowercase marker) := by
    rw [trained.normalizer_eq, Normalizer.oovMarker_ofConfig, marked, Option.map_some]
  have oovWord : vectorizer.normalizer.oovWords.contains word = true := by
    rw [trained.normalizer_eq]
    exact (Normalizer.contains_oovWords_ofConfig marked).mpr listed
  refine contains_configured accepted single analysis learned oovMarker oovWord fun same => ?_
  rw [trained.normalizer_eq, ← same] at oovMarker
  exact unmarked oovMarker

-- Where terms are single words, no configured word is learned but those that are lost.
theorem forced_iff_none_lost (accepted : config.validate = .ok ()) (words : config.analyzer = .word)
    (single : config.mostNgram = 1) (marked : config.oovMarker = some marker)
    (learns : Learns config (Normalizer.ofConfig config).1 corpus vectorizer) :
    ∃ vocabulary documents, vectorizer.vocabulary = some vocabulary ∧
      corpus.mapM (vectorizer.terms none) = .ok documents ∧
      (Forced config vocabulary ↔ ∀ word, ¬Lost config documents word) ∧
      (config.stripAccents = none → Forced config vocabulary) := by
  obtain ⟨vocabulary, trained, learned⟩ := learns.trained
  obtain ⟨documents, analyzed, built⟩ := bind_eq_ok_iff.mp learned
  rw [trained.bounds_eq, mapError_eq_ok_iff] at built
  have forced : Forced config vocabulary ↔ ∀ word, ¬Lost config documents word := by
    constructor
    · intro forced word lost
      exact lost.unmarked (forced word lost.configured ((Vocabulary.contains_iff_kept built).mpr lost.kept))
    · intro noneLost word configured known
      by_contra unmarked
      refine noneLost word ⟨configured, fun listed => ?_, unmarked, (Vocabulary.contains_iff_kept built).mp known⟩
      have unlearned := unlearned_of_listed accepted words single marked trained learned listed unmarked
      exact Bool.false_ne_true (unlearned.symm.trans known)
  exact ⟨vocabulary, documents, trained.fitted, analyzed, forced,
    fun whole => forced.mpr fun word lost => lost.stripped whole⟩

def accentsStripped (words : List String) : Config :=
  { Config.default with stripAccents := some .ascii, oovMarker := some "oov", oovWords := words }

-- With the stripped form configured as well, the word is not lost.
theorem accentsStripped_forced :
    ((accentsStripped ["café", "cafe"]).validate = .ok () ∧ (accentsStripped ["café", "cafe"]).analyzer = .word ∧
      (accentsStripped ["café", "cafe"]).mostNgram = 1 ∧
      (accentsStripped ["café", "cafe"]).oovMarker = some "oov") ∧
    ∃ vectorizer vocabulary, vectorizer.vocabulary = some vocabulary ∧
      Learns (accentsStripped ["café", "cafe"]) (Normalizer.ofConfig (accentsStripped ["café", "cafe"])).1
        ["the café opens"] vectorizer ∧
      Forced (accentsStripped ["café", "cafe"]) vocabulary := by
  have learned : learned? (accentsStripped ["café", "cafe"])
      (Normalizer.ofConfig (accentsStripped ["café", "cafe"])).1 ["the café opens"] =
        some (.ofTerms ["oov", "opens", "the"]) := by decide +kernel
  obtain ⟨vectorizer, learns, _⟩ := exists_learns_of_learned learned
  obtain ⟨vocabulary, _, fitted, _, forced, _⟩ := forced_iff_none_lost rfl rfl rfl rfl learns
  refine ⟨⟨rfl, rfl, rfl, rfl⟩, vectorizer, vocabulary, fitted, learns, forced.mpr fun word lost => ?_⟩
  have listed : ∀ word ∈ ["café", "cafe"],
      (Normalizer.ofConfig (accentsStripped ["café", "cafe"])).1.preprocess word ∈
        ["café", "cafe"].map (Normalizer.foldCase true) := by decide +kernel
  exact lost.unlisted (listed word lost.configured)

-- With the accented form alone, the word is learned without its accent.
theorem accented_word_learned :
    ((accentsStripped ["café"]).validate = .ok () ∧ (accentsStripped ["café"]).analyzer = .word ∧
      (accentsStripped ["café"]).leastNgram = 1 ∧ (accentsStripped ["café"]).mostNgram = 1 ∧
      (accentsStripped ["café"]).oovMarker = some "oov") ∧
    ∃ vectorizer, vectorizer.vocabulary = some (.ofTerms ["cafe", "opens", "the"]) ∧
      Learns (accentsStripped ["café"]) (Normalizer.ofConfig (accentsStripped ["café"])).1 ["the café opens"]
        vectorizer ∧
      ¬Forced (accentsStripped ["café"]) (.ofTerms ["cafe", "opens", "the"]) := by
  have learned : learned? (accentsStripped ["café"]) (Normalizer.ofConfig (accentsStripped ["café"])).1
      ["the café opens"] = some (.ofTerms ["cafe", "opens", "the"]) := by decide +kernel
  obtain ⟨vectorizer, learns, fitted⟩ := exists_learns_of_learned learned
  refine ⟨⟨rfl, rfl, rfl, rfl, rfl⟩, vectorizer, fitted, learns, fun forced => ?_⟩
  have stripped : (Normalizer.ofConfig (accentsStripped ["café"])).1.preprocess "café" = "cafe" := by decide +kernel
  have marked := forced "café" List.mem_cons_self (by rw [stripped]; decide +kernel)
  rw [stripped] at marked
  exact absurd marked (by decide +kernel)

end Vectorizer

end TextFeatures
