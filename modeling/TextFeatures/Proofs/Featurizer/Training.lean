import TextFeatures.Proofs.Featurizer.Histories
import TextFeatures.Proofs.Message.Updates

namespace TextFeatures.Featurizer

-- What training makes of a message with an intent.
structure Featurized (config : Config) (vectorizers : Vectorizers) (channels : Channels)
    (before after : Message) : Prop where
  text : ∃ own merged, Own config vectorizers.forText (longest channels.messages) before.messageText own ∧
    mergeText before own = .ok merged ∧ after.features? Field.textFeatures = some merged
  intent : ∃ own, Own config vectorizers.forLabel (longest channels.intents) before.intentText own ∧
    after.features? Field.intentFeatures = some own
  response : ∃ own, Own config vectorizers.forLabel (longest channels.responses) before.responseText own ∧
    after.features? Field.responseFeatures = some own
  sameText : after.text = before.text
  otherFields : ∀ name ∉ [Field.textFeatures, Field.intentFeatures, Field.responseFeatures],
    after.get? name = before.get? name

variable {config : Config} {normalizer : Normalizer} {vectorizers : Vectorizers} {channels : Channels}
  {featurizer : Featurizer} {lemmatizer : Option Lemmatizer} {data : TrainingData}
  {message before after : Message} {features : ExampleFeatures} {merged : List ExampleFeatures}

theorem Given.featurized (given : Given config vectorizers channels message features) :
    Featurized config vectorizers channels message (setFeatures features message) := by
  obtain ⟨computed, own, merged⟩ := given
  obtain ⟨text, intent, response⟩ := mergeExample_eq_ok_iff.mp merged
  refine ⟨⟨_, _, own.text, text, ?_⟩, ⟨_, intent ▸ own.intent, ?_⟩, ⟨_, response ▸ own.response, ?_⟩, rfl, ?_⟩
  · simp [Message.features?, setFeatures, Field.textFeatures, Field.intentFeatures, Field.responseFeatures]
  · simp [Message.features?, setFeatures, Field.intentFeatures, Field.responseFeatures]
  · simp [Message.features?, setFeatures]
  · intro name other
    simp only [List.mem_cons, List.not_mem_nil, or_false, not_or] at other
    simp [setFeatures, other]

def TrainedOn (config : Config) (vectorizers : Vectorizers) (channels : Channels) (before after : Message) : Prop :=
  if before.hasIntent then Featurized config vectorizers channels before after else after = before

theorem trainedOn_of_updated
    (updated : TrainingData.Updated setFeatures (Given config vectorizers channels) before after) :
    TrainedOn config vectorizers channels before after := by
  unfold TrainedOn
  cases updated with
  | changed intent given => simpa [intent] using given.featurized
  | kept intent => simp [intent]

theorem forall₂_trainedOn
    (given : List.Forall₂ (Given config vectorizers channels) data.intentExamples merged) :
    List.Forall₂ (TrainedOn config vectorizers channels) data.examples
      (data.mapIntentExamples setFeatures merged).examples :=
  (TrainingData.forall₂_updateIntents given).imp fun _ _ => trainedOn_of_updated

-- Training either leaves all as it was, or fails for want of a vocabulary and tells so by the state alone,
-- or puts features on every example that has an intent and touches nothing else.
theorem train_all_or_nothing (path : Reached config featurizer) (lemmatizer : Option Lemmatizer)
    (data : TrainingData) :
    let outcome := featurizer.train lemmatizer data
    let normalizer := featurizer.trainingNormalizer lemmatizer
    let channels := Channels.ofExamples data.intentExamples
    ((∃ e, outcome.result = .error e) → outcome.featurizer = featurizer ∧ outcome.data = data) ∧
    ((∃ corpus ∈ corpora config channels, ¬Vectorizer.Learnable config normalizer corpus) →
      outcome.result = .ok () ∧ outcome.featurizer = { featurizer with state := .failed } ∧ outcome.data = data) ∧
    ((∀ corpus ∈ corpora config channels, Vectorizer.Learnable config normalizer corpus) →
      outcome.result = .ok () → ∃ vectorizers, Learned config normalizer channels vectorizers ∧
        outcome.featurizer = { featurizer with normalizer := normalizer, state := .ready vectorizers } ∧
        List.Forall₂ (TrainedOn config vectorizers channels) data.examples outcome.data.examples) := by
  obtain ⟨rfl, accepted, _⟩ := reached_sound path
  intro outcome normalizer channels
  refine ⟨?_, ?_, ?_⟩
  · rintro ⟨e, failed⟩
    cases (train_ends : TrainEnd featurizer lemmatizer data outcome) with
    | unlearned _ result => cases result.symm.trans failed
    | refused _ _ _ unchanged same => exact ⟨unchanged, same⟩
    | trained _ result => cases result.symm.trans failed
  · intro missing
    obtain ⟨cause, failed⟩ := (learn_vocabulary_error_iff accepted).mpr missing
    cases (train_ends : TrainEnd featurizer lemmatizer data outcome) with
    | unlearned _ result state same => exact ⟨result, state, same⟩
    | refused learned other =>
      cases learned.symm.trans failed
      exact absurd rfl (other cause)
    | trained learned => cases learned.symm.trans failed
  · intro learnable succeeded
    cases (train_ends : TrainEnd featurizer lemmatizer data outcome) with
    | unlearned learned =>
      obtain ⟨corpus, member, missing⟩ := (learn_vocabulary_error_iff accepted).mp ⟨_, learned⟩
      exact absurd (learnable corpus member) missing
    | refused _ _ result => cases result.symm.trans succeeded
    | trained learned _ state changed =>
      obtain ⟨fitted, given⟩ := learn_eq_ok accepted learned
      exact ⟨_, fitted, state, changed ▸ forall₂_trainedOn given⟩

-- Letters are counted. Of two messages one carries an intent, and features that others have put there.

def letterConfig : Config := { Config.default with analyzer := .char, lowercase := false }

def labelled : Message :=
  (((Message.ofText "abba").set Field.intent (.text "x")).set Field.intentTokens (.tokens [.plain "x" 0 1])).setFeatures
    Field.textFeatures (.dense [7])

def letters : TrainingData := ⟨[labelled, .ofText "c"]⟩

def untrained : Featurizer := ⟨letterConfig, (Normalizer.ofConfig letterConfig).1, .untrained⟩

-- Training has failed once, for there was nothing to learn from.
def exhausted : Featurizer := (untrained.train none ⟨[.ofText "c"]⟩).featurizer

theorem reached_untrained : Reached letterConfig untrained := .made rfl

theorem reached_exhausted : Reached letterConfig exhausted := .step reached_untrained (.train none _)

theorem train_letters :
    (Reached letterConfig exhausted ∧ exhausted.state = .failed ∧
      ∀ corpus ∈ corpora letterConfig (Channels.ofExamples letters.intentExamples),
        Vectorizer.Learnable letterConfig exhausted.normalizer corpus) ∧
    (exhausted.train none letters).result = .ok () ∧
    ∃ vectorizers, Learned letterConfig exhausted.normalizer (Channels.ofExamples letters.intentExamples) vectorizers ∧
      (exhausted.train none letters).featurizer = { exhausted with state := .ready vectorizers } ∧
      List.Forall₂ (TrainedOn letterConfig vectorizers (Channels.ofExamples letters.intentExamples)) letters.examples
        (exhausted.train none letters).data.examples := by
  have learnable : ∀ corpus ∈ corpora letterConfig (Channels.ofExamples letters.intentExamples),
      Vectorizer.Learnable letterConfig exhausted.normalizer corpus :=
    exists_learned_iff.mp ⟨_, fit_eq_ok_iff.mp rfl⟩
  have succeeded : (exhausted.train none letters).result = .ok () := rfl
  exact ⟨⟨reached_exhausted, rfl, learnable⟩, succeeded,
    (train_all_or_nothing reached_exhausted none letters).2.2 learnable succeeded⟩

end TextFeatures.Featurizer
