import TextFeatures.Proofs.Featurizer.Lifetimes
import TextFeatures.Proofs.Featurizer.Writing

namespace TextFeatures

variable {config : Config} {normalizer : Normalizer} {vectorizers : Vectorizers}

-- The vectorizer for intents and responses: the one for all texts if there is no other, else the one of the labels.
inductive Vectorizers.CountsLabels (config : Config) : Vectorizers → Vectorizer → Prop
  | shared {vectorizer : Vectorizer} : config.sharedVocabulary = true →
      CountsLabels config (.shared vectorizer) vectorizer
  | separate {text label : Vectorizer} : config.sharedVocabulary = false →
      CountsLabels config (.separate text label) label

theorem Vectorizers.Trained.countsLabels (trained : vectorizers.Trained config normalizer) :
    vectorizers.CountsLabels config vectorizers.forLabel := by
  cases trained with
  | shared both => exact .shared both
  | separate apart => exact .separate apart

theorem State.vectorizers?_eq_none_iff {state : State} :
    state.vectorizers? = none ↔ state = .untrained ∨ state = .failed := by
  cases state <;> simp [vectorizers?]

theorem State.vectorizers?_eq_some_iff {state : State} :
    state.vectorizers? = some vectorizers ↔ state = .ready vectorizers ∨ state = .testDataFeaturized vectorizers := by
  cases state <;> simp [vectorizers?]

namespace Featurizer

variable {featurizer : Featurizer} {label : Vectorizer} {channels : Channels} {message before after : Message}
  {data : TrainingData} {testData : Option TrainingData} {returned : Bool}

-- Nothing of a message changes but the fields of certain names.
structure SameBut (names : List String) (before after : Message) : Prop where
  text : after.text = before.text
  fields : ∀ name ∉ names, after.get? name = before.get? name

-- What becomes of a test example with an intent. Its own texts are counted, and its text features stay.
structure LabelsCounted (config : Config) (label : Vectorizer) (channels : Channels) (before after : Message) :
    Prop where
  intent : ∃ own, Own config label (longest channels.intents) before.intentText own ∧
    after.features? Field.intentFeatures = some own
  response : ∃ own, Own config label (longest channels.responses) before.responseText own ∧
    after.features? Field.responseFeatures = some own
  others : SameBut [Field.intentFeatures, Field.responseFeatures] before after

def Tested (config : Config) (label : Vectorizer) (channels : Channels) (before after : Message) : Prop :=
  if before.hasIntent then LabelsCounted config label channels before after else after = before

theorem Writes.labelsCounted (writes : Writes config vectorizers (labelFields channels before) before after) :
    LabelsCounted config vectorizers.forLabel channels before after := by
  obtain ⟨own, sameText, otherFields⟩ := writes
  simp only [labelFields, List.forall_mem_cons] at own
  obtain ⟨⟨intentOwn, intent, ofIntent⟩, ⟨responseOwn, response, ofResponse⟩, _⟩ := own
  refine ⟨⟨intentOwn, ?_, intent⟩, ⟨responseOwn, ?_, response⟩, sameText, otherFields⟩
  · simpa [Vectorizers.forField, Field.intentFeatures, Field.textFeatures] using ofIntent
  · simpa [Vectorizers.forField, Field.responseFeatures, Field.textFeatures] using ofResponse

theorem WritesExample.tested
    (writes : WritesExample config vectorizers (labelFields channels) before after) :
    Tested config vectorizers.forLabel channels before after := by
  unfold Tested
  unfold WritesExample at writes
  cases intent : before.hasIntent with
  | false => simpa [intent] using writes
  | true =>
    simp only [intent, if_true] at writes ⊢
    exact writes.labelsCounted

theorem processMessage_sameBut (processed : featurizer.processMessage vectorizers message = .ok after) :
    SameBut [Field.textFeatures] message after := by
  unfold processMessage at processed
  obtain ⟨computed, _, written⟩ := bind_eq_ok_iff.mp processed
  cases written
  refine ⟨rfl, ?_⟩
  intro name other
  have different : name ≠ Field.textFeatures := fun same => other (List.mem_singleton.mpr same)
  rw [Message.get?_setFeatures, if_neg different]

theorem afterMessage_ok {seen : Bool} {processed : Except Error Message}
    (told : (Except.ok returned, after) = afterMessage seen message processed) :
    returned = seen ∧ processed = .ok after := by
  cases processed with
  | error e => cases told
  | ok made =>
    cases told
    exact ⟨rfl, rfl⟩

-- What a call does that succeeds. Without training it does nothing. Otherwise the message gets text features, and
-- test data that are the first since training get the features of their labels and are given back.
theorem process_effect (path : Lived config featurizer) (message : Message) (testData : Option TrainingData)
    (succeeded : (featurizer.process message testData).result = .ok returned) :
    let outcome := featurizer.process message testData
    (featurizer.state = .untrained ∨ featurizer.state = .failed →
      returned = false ∧ outcome.featurizer = featurizer ∧ outcome.message = message ∧ outcome.testData = testData) ∧
    ∀ vectorizers, featurizer.state = .ready vectorizers ∨ featurizer.state = .testDataFeaturized vectorizers →
      SameBut [Field.textFeatures] message outcome.message ∧
      (returned = true ↔ featurizer.state = .ready vectorizers ∧ testData.isSome = true) ∧
      (returned = true → ∃ data tested label, testData = some data ∧ outcome.testData = some tested ∧
        vectorizers.CountsLabels config label ∧
        List.Forall₂ (Tested config label (Channels.ofExamples data.intentExamples)) data.examples tested.examples ∧
        outcome.featurizer = { featurizer with state := .testDataFeaturized vectorizers }) ∧
      (returned = false → outcome.testData = testData ∧ outcome.featurizer = featurizer) := by
  intro outcome
  obtain ⟨rfl, accepted, trained⟩ := (lived_lasting path).toSound
  have result : outcome.result = .ok returned := succeeded
  simp only [← State.vectorizers?_eq_none_iff, ← State.vectorizers?_eq_some_iff]
  cases (process_ends : ProcessEnd featurizer message testData outcome) with
  | untrained state none unchanged same kept =>
    rw [result] at none
    obtain rfl : returned = false := Except.ok.inj none
    refine ⟨fun _ => ⟨rfl, unchanged, same, kept⟩, fun vectorizers learned => ?_⟩
    cases state.symm.trans learned
  | @alone vectorizers state unseen told unchanged kept =>
    rw [result] at told
    obtain ⟨rfl, processed⟩ := afterMessage_ok told
    refine ⟨fun unlearned => ?_, fun others _ => ?_⟩
    · cases unlearned.symm.trans state
    · refine ⟨processMessage_sameBut processed, ⟨Bool.false_ne_true.elim, ?_⟩, Bool.false_ne_true.elim,
        fun _ => ⟨kept, unchanged⟩⟩
      rintro ⟨ready, given⟩
      rcases unseen with seen | missing
      · cases ready.symm.trans seen
      · simp [missing] at given
  | refused _ _ _ failed => cases failed.symm.trans result
  | @first vectorizers data tested state given featurized told seen changed =>
    rw [result] at told
    obtain ⟨rfl, processed⟩ := afterMessage_ok told
    have trainedState : featurizer.state.vectorizers? = some vectorizers := congrArg State.vectorizers? state
    refine ⟨fun unlearned => ?_, fun others learned => ?_⟩
    · cases unlearned.symm.trans trainedState
    · obtain rfl : vectorizers = others := Option.some.inj (trainedState.symm.trans learned)
      have suited := trained vectorizers trainedState
      have each := (featurizeTestData_writes suited featurized).imp fun _ _ writes => writes.tested
      refine ⟨processMessage_sameBut processed, by simp [state, given], ?_,
        fun untold => absurd untold.symm Bool.false_ne_true⟩
      exact fun _ => ⟨data, tested, _, given, changed, suited.countsLabels, each, seen⟩

-- The test data are the training data once more, with the features that training would put on them.
theorem lettersLearned_effect :
    Lived letterConfig lettersLearned ∧
    (lettersLearned.process (.ofText "ab") (some letters)).result = .ok true ∧
    ∃ vectorizers, lettersLearned.state = .ready vectorizers ∧
      SameBut [Field.textFeatures] (.ofText "ab") (lettersLearned.process (.ofText "ab") (some letters)).message ∧
      ∃ tested label, (lettersLearned.process (.ofText "ab") (some letters)).testData = some tested ∧
        vectorizers.CountsLabels letterConfig label ∧
        List.Forall₂ (Tested letterConfig label (Channels.ofExamples letters.intentExamples)) letters.examples
          tested.examples ∧
        (lettersLearned.process (.ofText "ab") (some letters)).featurizer =
          { lettersLearned with state := .testDataFeaturized vectorizers } := by
  have path : Lived letterConfig lettersLearned := .step (.step (.made rfl) (.train none _)) (.train none letters)
  have succeeded : (lettersLearned.process (.ofText "ab") (some letters)).result = .ok true := rfl
  obtain ⟨vectorizers, ready⟩ : ∃ vectorizers, lettersLearned.state = .ready vectorizers := ⟨_, rfl⟩
  obtain ⟨_, effect⟩ := process_effect path (.ofText "ab") (some letters) succeeded
  obtain ⟨sameBut, _, gives, _⟩ := effect vectorizers (.inl ready)
  obtain ⟨_, tested, label, given, changed, labels, each, seen⟩ := gives rfl
  cases given
  exact ⟨path, succeeded, vectorizers, ready, sameBut, tested, label, changed, labels, each, seen⟩

end Featurizer

end TextFeatures
