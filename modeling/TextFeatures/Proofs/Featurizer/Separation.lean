import TextFeatures.Proofs.Featurizer.Reordering

namespace TextFeatures

variable {config : Config} {normalizer : Normalizer} {corpus : List String}

theorem Vectorizer.Learns.unique {vectorizer other : Vectorizer} (one : Learns config normalizer corpus vectorizer)
    (two : Learns config normalizer corpus other) : vectorizer = other := by
  obtain ⟨fresh, vocabulary, made, learned, rfl⟩ := one
  obtain ⟨_, _, madeAgain, learnedAgain, rfl⟩ := two
  cases made.symm.trans madeAgain
  cases learned.symm.trans learnedAgain
  rfl

-- What stands in a field of the messages with an intent, in their order.
def TrainingData.featuresIn (data : TrainingData) (field : String) : List (Option (Features Float)) :=
  data.intentExamples.map (·.features? field)

namespace Featurizer

variable {channels otherChannels : Channels} {vectorizer : Vectorizer} {vectorizers others : Vectorizers}
  {fresh : Featurizer} {notices : List Notice} {lemmatizer : Option Lemmatizer} {data other after : TrainingData}
  {texts : List String} {field : String} {height : Nat}

theorem Learned.apart (separate : config.sharedVocabulary = false)
    (learned : Learned config normalizer channels vectorizers) :
    Vectorizer.Learns config normalizer channels.messages vectorizers.forText ∧
      Vectorizer.Learns config normalizer (labelCorpus config channels) vectorizers.forLabel := by
  cases learned with
  | shared both => cases separate.symm.trans both
  | separate _ learnsText learnsLabel => exact ⟨learnsText, learnsLabel⟩

theorem Learned.together (both : config.sharedVocabulary = true)
    (learned : Learned config normalizer channels vectorizers) :
    ∃ vectorizer, vectorizers = .shared vectorizer ∧
      Vectorizer.Learns config normalizer (sharedCorpus config channels) vectorizer := by
  cases learned with
  | shared _ learns => exact ⟨_, rfl, learns⟩
  | separate separate => cases separate.symm.trans both

-- A field holds what a vectorizer counts in texts that are featurized together, and nothing else.
def HoldsCounts (config : Config) (vectorizer : Vectorizer) (texts : List String) (field : String)
    (after : TrainingData) : Prop :=
  ∃ computed, features config vectorizer texts = .ok computed ∧ after.featuresIn field = computed.map some

theorem HoldsCounts.unique {again : TrainingData} (one : HoldsCounts config vectorizer texts field after)
    (two : HoldsCounts config vectorizer texts field again) : after.featuresIn field = again.featuresIn field := by
  obtain ⟨computed, counted, held⟩ := one
  obtain ⟨_, countedAgain, heldAgain⟩ := two
  cases counted.symm.trans countedAgain
  rw [held, heldAgain]

theorem exists_counts {befores afters : List Message} {textOf : Message → String}
    (each : List.Forall₂ (fun before after => ∃ own, Own config vectorizer height (textOf before) own ∧
      after.features? field = some own) befores afters) :
    ∃ computed, List.Forall₂ (Own config vectorizer height) (befores.map textOf) computed ∧
      afters.map (·.features? field) = computed.map some := by
  induction each with
  | nil => exact ⟨[], .nil, rfl⟩
  | cons here _ ih =>
    obtain ⟨own, ofText, written⟩ := here
    obtain ⟨computed, others, later⟩ := ih
    exact ⟨own :: computed, .cons ofText others, by rw [List.map_cons, List.map_cons, written, later]⟩

theorem holdsCounts {vocabulary : Vocabulary} (trained : vectorizer.Trained config normalizer vocabulary)
    (textOf : Message → String)
    (each : List.Forall₂ (fun before after => ∃ own,
      Own config vectorizer (longest (data.intentExamples.map textOf)) (textOf before) own ∧
        after.features? field = some own) data.intentExamples after.intentExamples) :
    HoldsCounts config vectorizer (data.intentExamples.map textOf) field after := by
  obtain ⟨computed, own, held⟩ := exists_counts each
  exact ⟨computed, (features_eq_ok_iff trained).mpr own, held⟩

structure LeavesBehind (config : Config) (normalizer : Normalizer) (channels : Channels) (vectorizers : Vectorizers)
    (after : TrainingData) : Prop where
  learned : Learned config normalizer channels vectorizers
  text : HoldsCounts config vectorizers.forText channels.messages Field.textFeatures after
  intent : HoldsCounts config vectorizers.forLabel channels.intents Field.intentFeatures after
  response : HoldsCounts config vectorizers.forLabel channels.responses Field.responseFeatures after

theorem clear_of_unmarked (unmarked : ∀ message ∈ data.intentExamples, Unmarked message) :
    ¬∃ message ∈ data.intentExamples, Clashes config message := by
  rintro ⟨message, member, _, _, existing, marked, _⟩
  have none : message.features? Field.textFeatures = none := unmarked message member
  cases none.symm.trans marked

theorem leavesBehind_of_ready (made : ofConfig config = (.ok fresh, notices))
    (unmarked : ∀ message ∈ data.intentExamples, Unmarked message)
    (ready : (fresh.train lemmatizer data).featurizer.state = .ready vectorizers) :
    LeavesBehind config (fresh.trainingNormalizer lemmatizer) (Channels.ofExamples data.intentExamples) vectorizers
      (fresh.train lemmatizer data).data := by
  have sound := sound_ofConfig made
  cases fitted : (fit config (fresh.trainingNormalizer lemmatizer) (Channels.ofExamples data.intentExamples)).1 with
  | error e =>
    have failed := (train_unfit sound fitted).2.1
    rw [failed] at ready
    cases ready
  | ok found =>
    obtain ⟨_, state, each⟩ := train_clear sound fitted (clear_of_unmarked unmarked)
    rw [state] at ready
    cases ready
    have learned := fit_eq_ok_iff.mp fitted
    obtain ⟨_, trainedText⟩ := learned.trained.forText
    obtain ⟨_, trainedLabel⟩ := learned.trained.forLabel
    have featurized := forall₂_featurized each
    refine ⟨learned, holdsCounts trainedText _ ?_, holdsCounts trainedLabel _ ?_, holdsCounts trainedLabel _ ?_⟩
    · refine ((List.forall₂_and_left _ _).mpr ⟨fun _ => id, featurized⟩).imp ?_
      rintro before after ⟨member, written⟩
      obtain ⟨own, merged, ofText, combined, here⟩ := written.text
      cases combined.symm.trans (mergeText_unmarked (unmarked before member))
      exact ⟨own, ofText, here⟩
    · exact featurized.imp fun _ _ written => written.intent
    · exact featurized.imp fun _ _ written => written.response

-- Two runs that have channels in common.
section TwoRuns
variable {otherAfter : TrainingData} (one : LeavesBehind config normalizer channels vectorizers after)
  (two : LeavesBehind config normalizer otherChannels others otherAfter)
include one two

theorem forText_eq (separate : config.sharedVocabulary = false) (same : channels.messages = otherChannels.messages) :
    vectorizers.forText = others.forText := by
  have learns := (one.learned.apart separate).1
  rw [same] at learns
  exact learns.unique (two.learned.apart separate).1

theorem forLabel_eq (separate : config.sharedVocabulary = false)
    (same : labelCorpus config channels = labelCorpus config otherChannels) :
    vectorizers.forLabel = others.forLabel := by
  have learns := (one.learned.apart separate).2
  rw [same] at learns
  exact learns.unique (two.learned.apart separate).2

theorem vectorizers_eq (both : config.sharedVocabulary = true)
    (same : sharedCorpus config channels = sharedCorpus config otherChannels) : vectorizers = others := by
  obtain ⟨vectorizer, rfl, learns⟩ := one.learned.together both
  obtain ⟨other, rfl, otherLearns⟩ := two.learned.together both
  rw [same] at learns
  exact congrArg Vectorizers.shared (learns.unique otherLearns)

theorem textFeatures_eq (forText : vectorizers.forText = others.forText)
    (same : channels.messages = otherChannels.messages) :
    after.featuresIn Field.textFeatures = otherAfter.featuresIn Field.textFeatures := by
  have text := one.text
  rw [forText, same] at text
  exact text.unique two.text

theorem intentFeatures_eq (forLabel : vectorizers.forLabel = others.forLabel)
    (same : channels.intents = otherChannels.intents) :
    after.featuresIn Field.intentFeatures = otherAfter.featuresIn Field.intentFeatures := by
  have intent := one.intent
  rw [forLabel, same] at intent
  exact intent.unique two.intent

end TwoRuns

-- A vocabulary is learned from its own channels, and features are counted with the vocabulary of their channel, so
-- that what stands in the other channels makes no difference.
theorem channels_apart (made : ofConfig config = (.ok fresh, notices))
    (unmarked : ∀ message ∈ data.intentExamples, Unmarked message)
    (alsoUnmarked : ∀ message ∈ other.intentExamples, Unmarked message)
    (ready : (fresh.train lemmatizer data).featurizer.state = .ready vectorizers)
    (alsoReady : (fresh.train lemmatizer other).featurizer.state = .ready others) :
    let channels := Channels.ofExamples data.intentExamples
    let otherChannels := Channels.ofExamples other.intentExamples
    let after := (fresh.train lemmatizer data).data
    let otherAfter := (fresh.train lemmatizer other).data
    (config.sharedVocabulary = false → channels.messages = otherChannels.messages →
      vectorizers.forText = others.forText ∧
        after.featuresIn Field.textFeatures = otherAfter.featuresIn Field.textFeatures) ∧
    (config.sharedVocabulary = false → config.sequence = false → channels.intents = otherChannels.intents →
      vectorizers.forLabel = others.forLabel ∧
        after.featuresIn Field.intentFeatures = otherAfter.featuresIn Field.intentFeatures) ∧
    (config.sharedVocabulary = false → config.sequence = true → channels.intents = otherChannels.intents →
      channels.responses = otherChannels.responses → vectorizers.forLabel = others.forLabel) ∧
    (config.sharedVocabulary = true → config.sequence = true → channels.messages = otherChannels.messages →
      channels.intents = otherChannels.intents →
      vectorizers = others ∧
        after.featuresIn Field.textFeatures = otherAfter.featuresIn Field.textFeatures ∧
        after.featuresIn Field.intentFeatures = otherAfter.featuresIn Field.intentFeatures) := by
  intro channels otherChannels after otherAfter
  have one : LeavesBehind config _ channels vectorizers after := leavesBehind_of_ready made unmarked ready
  have two : LeavesBehind config _ otherChannels others otherAfter := leavesBehind_of_ready made alsoUnmarked alsoReady
  refine ⟨?_, ?_, ?_, ?_⟩
  · intro separate messages
    have forText := forText_eq one two separate messages
    exact ⟨forText, textFeatures_eq one two forText messages⟩
  · intro separate bag intents
    have forLabel := forLabel_eq one two separate (by simp only [labelCorpus, bag, intents, Bool.false_eq_true, if_false])
    exact ⟨forLabel, intentFeatures_eq one two forLabel intents⟩
  · intro separate _ intents responses
    exact forLabel_eq one two separate (by simp only [labelCorpus, intents, responses])
  · intro both sequence messages intents
    obtain rfl := vectorizers_eq one two both (by simp only [sharedCorpus, sequence, messages, intents, if_true])
    exact ⟨rfl, textFeatures_eq one two rfl messages, intentFeatures_eq one two rfl intents⟩

-- Two sets of one example each, with the same text, and with intents of their own.

def greeting : TrainingData := ⟨[alsoLabelled.set Field.intentTokens (.tokens [.plain "y" 0 1])]⟩

def renamed : TrainingData := ⟨[.ofText "c", alsoLabelled.set Field.intentTokens (.tokens [.plain "zz" 0 2])]⟩

theorem renamed_apart :
    ofConfig letterConfig = (.ok untrained, letterConfig.notices) ∧
    (∀ message ∈ greeting.intentExamples, Unmarked message) ∧ (∀ message ∈ renamed.intentExamples, Unmarked message) ∧
    (Channels.ofExamples greeting.intentExamples).messages = (Channels.ofExamples renamed.intentExamples).messages ∧
    (Channels.ofExamples greeting.intentExamples).intents ≠ (Channels.ofExamples renamed.intentExamples).intents ∧
    ∃ vectorizers others, (untrained.train none greeting).featurizer.state = .ready vectorizers ∧
      (untrained.train none renamed).featurizer.state = .ready others ∧ vectorizers.forText = others.forText ∧
      (untrained.train none greeting).data.featuresIn Field.textFeatures =
        (untrained.train none renamed).data.featuresIn Field.textFeatures := by
  have made : ofConfig letterConfig = (.ok untrained, letterConfig.notices) := rfl
  have unmarked : ∀ message ∈ greeting.intentExamples, Unmarked message := by decide +kernel
  have alsoUnmarked : ∀ message ∈ renamed.intentExamples, Unmarked message := by decide +kernel
  obtain ⟨vectorizers, ready⟩ : ∃ vectorizers, (untrained.train none greeting).featurizer.state = .ready vectorizers :=
    ⟨_, rfl⟩
  obtain ⟨others, alsoReady⟩ : ∃ vectorizers, (untrained.train none renamed).featurizer.state = .ready vectorizers :=
    ⟨_, rfl⟩
  exact ⟨made, unmarked, alsoUnmarked, rfl, by decide +kernel, vectorizers, others, ready, alsoReady,
    (channels_apart made unmarked alsoUnmarked ready alsoReady).1 rfl rfl⟩

end Featurizer

end TextFeatures
