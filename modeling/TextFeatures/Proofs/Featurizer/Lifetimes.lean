import TextFeatures.Proofs.Model.Reloading

namespace TextFeatures

namespace Vocabulary

variable {vocabulary : Vocabulary} {a b : String} {i j : Nat}

-- The columns are the numbers below the size, each for one term, and they grow with the terms.
structure Alphabetical (vocabulary : Vocabulary) : Prop where
  nonempty : 0 < vocabulary.size
  inside : ∀ term column, vocabulary.index? term = some column → column < vocabulary.size
  onto : ∀ column < vocabulary.size, ∃! term, vocabulary.index? term = some column
  increasing : ∀ a b i j, vocabulary.index? a = some i → vocabulary.index? b = some j → (a < b ↔ i < j)

theorem Numbered.lt_of_lt (numbered : vocabulary.Numbered) (atA : vocabulary.index? a = some i)
    (atB : vocabulary.index? b = some j) (before : i < j) : a < b := by
  have ordered : vocabulary.indices.keys.Pairwise (· < ·) := List.pairwise_map.mpr vocabulary.indices.ordered
  obtain ⟨insideA, rfl⟩ := List.getElem?_eq_some_iff.mp (numbered.index?_eq_some_iff.mp atA)
  obtain ⟨insideB, rfl⟩ := List.getElem?_eq_some_iff.mp (numbered.index?_eq_some_iff.mp atB)
  exact List.pairwise_iff_getElem.mp ordered i j insideA insideB before

theorem Numbered.alphabetical (numbered : vocabulary.Numbered) : vocabulary.Alphabetical where
  nonempty := numbered.size_pos
  inside _ _ found := numbered.index?_lt_size found
  onto column inside := by
    rw [size_eq_length_keys] at inside
    have there : vocabulary.index? vocabulary.indices.keys[column] = some column :=
      numbered.index?_eq_some_iff.mpr (List.getElem?_eq_getElem inside)
    exact ⟨_, there, fun term found => numbered.index?_inj found there⟩
  increasing a b i j atA atB := by
    refine ⟨fun before => ?_, numbered.lt_of_lt atA atB⟩
    rcases Nat.lt_trichotomy i j with less | same | greater
    · exact less
    · subst same
      obtain rfl := numbered.index?_inj atA atB
      exact absurd before (String.lt_irrefl a)
    · exact absurd before (Dictionary.not_lt_of_lt (numbered.lt_of_lt atB atA greater))

end Vocabulary

variable {config : Config} {normalizer : Normalizer} {vectorizer : Vectorizer} {vectorizers : Vectorizers}

-- A vectorizer is of the kind that is asked for, agrees with its featurizer on how texts are normalized, and
-- has learned its terms.
structure Vectorizer.Suits (config : Config) (normalizer : Normalizer) (vectorizer : Vectorizer) : Prop where
  kind : vectorizer.analysis.analyzer = config.analyzer
  normalizer : vectorizer.normalizer = normalizer
  vocabulary : ∃ vocabulary, vectorizer.vocabulary = some vocabulary ∧ vocabulary.Alphabetical

inductive Vectorizers.Suit (config : Config) (normalizer : Normalizer) : Vectorizers → Prop
  | shared {vectorizer : Vectorizer} : config.sharedVocabulary = true → vectorizer.Suits config normalizer →
      Suit config normalizer (.shared vectorizer)
  | separate {text label : Vectorizer} : config.sharedVocabulary = false → text.Suits config normalizer →
      label.Suits config normalizer → Suit config normalizer (.separate text label)

theorem Vectorizer.Trained.suits {vocabulary : Vocabulary} (trained : vectorizer.Trained config normalizer vocabulary) :
    vectorizer.Suits config normalizer :=
  ⟨Analysis.analyzer_ofConfig trained.analysis, trained.normalizer_eq, vocabulary, trained.fitted,
    trained.numbered.alphabetical⟩

theorem Vectorizers.Trained.suit (trained : vectorizers.Trained config normalizer) :
    vectorizers.Suit config normalizer := by
  cases trained with
  | shared both vectorizer => exact .shared both vectorizer.suits
  | separate apart text label => exact .separate apart text.suits label.suits

namespace Featurizer
open ModelStore

variable {featurizer : Featurizer} {message : Message} {testData : Option TrainingData}

-- The calls of a history, and keeping the featurizer in a file and reading it again in between.
inductive Lived (config : Config) : Featurizer → Prop
  | made {featurizer : Featurizer} {notices : List Notice} : ofConfig config = (.ok featurizer, notices) →
      Lived config featurizer
  | step {before after : Featurizer} : Lived config before → Step before after → Lived config after
  | reloaded {before after : Featurizer} {name : String} {store kept : ModelStore} {reference : ModelReference}
      {other : Config} {notices : List Notice} : Lived config before → before.Fits →
      Kept before name store reference kept → load other (some reference) kept = (.ok after, notices) →
      Lived config after

theorem lived_lasting (path : Lived config featurizer) : Lasting config featurizer := by
  induction path with
  | made built => exact lasting_ofConfig built
  | step _ step ih => exact step_lasting ih step
  | reloaded _ fits kept loaded ih =>
    rw [load_kept ih fits kept] at loaded
    cases loaded
    exact ih

-- How processing changes the state: by having seen test data, if at all.
inductive Moves : State → State → Prop
  | stays {state : State} : Moves state state
  | sees {vectorizers : Vectorizers} : Moves (.ready vectorizers) (.testDataFeaturized vectorizers)

theorem process_moves : Moves featurizer.state (featurizer.process message testData).featurizer.state := by
  cases (process_ends : ProcessEnd featurizer message testData _) with
  | untrained _ _ unchanged =>
    rw [unchanged]
    exact .stays
  | alone _ _ _ unchanged =>
    rw [unchanged]
    exact .stays
  | refused _ _ _ _ unchanged =>
    rw [unchanged]
    exact .stays
  | first state _ _ _ seen =>
    rw [seen, state]
    exact .sees

-- Whatever is done with a featurizer, its configuration stays and its vectorizers suit it.
theorem lived_suited (path : Lived config featurizer) :
    featurizer.config = config ∧
    (∀ vectorizers, featurizer.state.vectorizers? = some vectorizers →
      vectorizers.Suit config featurizer.normalizer) ∧
    ∀ message testData, Moves featurizer.state (featurizer.process message testData).featurizer.state := by
  have lasting := lived_lasting path
  refine ⟨lasting.configured, ?_, fun _ _ => process_moves⟩
  intro vectorizers state
  exact (lasting.trained vectorizers state).suit

def lettersSeen : Featurizer := (lettersLearned.process (.ofText "ab") (some letters)).featurizer

theorem lived_lettersSeen : Lived letterConfig lettersSeen := by
  have learned : Lived letterConfig lettersLearned :=
    .step (.step (.made rfl) (.train none _)) (.train none letters)
  have kept : Kept lettersLearned "m" .empty ⟨fileName "m"⟩ ⟨Dictionary.empty.insert "m.bin" lettersBackwards⟩ :=
    .written lettersLearned_written (put?_letters .empty lettersBackwards)
  have loaded : load letterConfig (some ⟨fileName "m"⟩) ⟨Dictionary.empty.insert "m.bin" lettersBackwards⟩ =
      .succeed lettersLearned := load_kept (lived_lasting learned) lettersLearned_fits kept
  exact .step (.reloaded learned lettersLearned_fits kept loaded) (.process (.ofText "ab") (some letters))

theorem lettersSeen_suited :
    Lived letterConfig lettersSeen ∧ lettersSeen.state.isTestDataFeaturized = true ∧ lettersSeen.config = letterConfig ∧
    (∃ vectorizers, lettersSeen.state = .testDataFeaturized vectorizers ∧
      vectorizers.Suit letterConfig lettersSeen.normalizer) ∧
    ∀ message testData, Moves lettersSeen.state (lettersSeen.process message testData).featurizer.state := by
  have seen : lettersSeen.state.isTestDataFeaturized = true := by decide +kernel
  obtain ⟨config, suited, moves⟩ := lived_suited lived_lettersSeen
  refine ⟨lived_lettersSeen, seen, config, ?_, moves⟩
  cases state : lettersSeen.state with
  | testDataFeaturized vectorizers => exact ⟨vectorizers, rfl, suited vectorizers (by rw [state]; rfl)⟩
  | _ => simp [state, State.isTestDataFeaturized] at seen

end Featurizer

end TextFeatures
