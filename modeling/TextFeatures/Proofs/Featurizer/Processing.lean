import TextFeatures.Proofs.Featurizer.Training

namespace TextFeatures.Featurizer

-- Dense features are asked for, and the message has features that they cannot be put behind.
def Clashes (config : Config) (message : Message) : Prop :=
  config.sequence = false ∧ config.sparse = false ∧ Unextendable message

-- There are test data, and none have been featurized since training.
def SeesTestData (featurizer : Featurizer) (testData : Option TrainingData) : Prop :=
  (∃ vectorizers, featurizer.state = .ready vectorizers) ∧ ∃ data, testData = some data

-- A call that fails leaves all behind as it was.
def FailsCleanly (featurizer : Featurizer) (message : Message) (testData : Option TrainingData) : Prop :=
  ∀ e, (featurizer.process message testData).result = .error e →
    (featurizer.process message testData).featurizer = featurizer ∧
      (featurizer.process message testData).message = message ∧
      (featurizer.process message testData).testData = testData

variable {config : Config} {normalizer : Normalizer} {featurizer : Featurizer} {vectorizers : Vectorizers}
  {message : Message} {data : TrainingData} {testData : Option TrainingData}

theorem messageFeatures_of_serves {vocabulary : Vocabulary}
    (serves : vectorizers.forText.Serves config normalizer vocabulary) :
    messageFeatures config vectorizers message =
      (countsAlone config vectorizers.forText vocabulary message.messageText) >>= fun counts =>
        mergeText message (toFloats counts) := by
  rw [messageFeatures, features_singleton serves]
  cases countsAlone config vectorizers.forText vocabulary message.messageText <;> rfl

theorem messageFeatures_eq {vocabulary : Vocabulary}
    (trained : vectorizers.forText.Trained config normalizer vocabulary) :
    messageFeatures config vectorizers message =
      (countsAlone config vectorizers.forText vocabulary message.messageText) >>= fun counts =>
        mergeText message (toFloats counts) := messageFeatures_of_serves trained.serves

theorem processMessage_fails_iff (sound : Sound config featurizer)
    (state : featurizer.state.vectorizers? = some vectorizers) :
    (∃ e, featurizer.processMessage vectorizers message = .error e) ↔ Clashes config message := by
  obtain ⟨rfl, accepted, trained⟩ := sound
  obtain ⟨vocabulary, trainedText⟩ := (trained vectorizers state).forText
  obtain ⟨counts, counted⟩ := exists_countsAlone accepted trainedText.serves message.messageText
  have merging : (∃ e, featurizer.processMessage vectorizers message = .error e) ↔
      ∃ e, mergeText message (toFloats counts) = .error e := by
    rw [processMessage, messageFeatures_eq trainedText, counted, ok_bind]
    cases mergeText message (toFloats counts) <;> simp
  rw [merging, mergeText_fails_iff, kind_toFloats, kind_countsAlone counted, Clashes, and_assoc]

theorem featurizeTestData_of_serves {vocabulary : Vocabulary} (accepted : config.validate = .ok ())
    (serves : vectorizers.forLabel.Serves config normalizer vocabulary) (data : TrainingData) :
    ∃ after, featurizeTestData config vectorizers data = .ok after := by
  obtain ⟨intents, ofIntents⟩ := exists_features accepted serves (Channels.ofExamples data.intentExamples).intents
  obtain ⟨responses, ofResponses⟩ := exists_features accepted serves (Channels.ofExamples data.intentExamples).responses
  exact ⟨_, by simp only [featurizeTestData, ofIntents, ofResponses, ok_bind]; rfl⟩

theorem exists_featurizeTestData (sound : Sound config featurizer)
    (state : featurizer.state.vectorizers? = some vectorizers) (data : TrainingData) :
    ∃ after, featurizeTestData featurizer.config vectorizers data = .ok after := by
  obtain ⟨rfl, accepted, trained⟩ := sound
  obtain ⟨_, trainedLabel⟩ := (trained vectorizers state).forLabel
  exact featurizeTestData_of_serves accepted trainedLabel.serves data

theorem afterMessage_error {seen : Bool} {result : Except Error Bool} {left : Message} {e : Error}
    {processed : Except Error Message} (told : (result, left) = afterMessage seen message processed)
    (failed : result = .error e) : processed = .error e ∧ left = message := by
  cases processed with
  | error other =>
    obtain ⟨rfl, rfl⟩ := Prod.mk.inj told
    cases failed
    exact ⟨rfl, rfl⟩
  | ok after =>
    obtain ⟨rfl, rfl⟩ := Prod.mk.inj told
    cases failed

-- Test data that come with a message that clashes are used up: they have their features, and count as seen.
theorem process_clash (sound : Sound config featurizer) (ready : featurizer.state = .ready vectorizers)
    (clashes : Clashes config message) :
    ∃ e after, (featurizer.process message (some data)).result = .error e ∧
      featurizeTestData featurizer.config vectorizers data = .ok after ∧
      (featurizer.process message (some data)).testData = some after ∧
      (featurizer.process message (some data)).featurizer =
        { featurizer with state := .testDataFeaturized vectorizers } := by
  have trained : featurizer.state.vectorizers? = some vectorizers := congrArg State.vectorizers? ready
  obtain ⟨after, featurized⟩ := exists_featurizeTestData sound trained data
  obtain ⟨e, failed⟩ := (processMessage_fails_iff sound trained).mpr clashes
  cases (process_ends : ProcessEnd featurizer message (some data) _) with
  | untrained state => cases trained.symm.trans state
  | alone _ unseen =>
    rcases unseen with seen | none
    · cases ready.symm.trans seen
    · cases none
  | refused state given failing =>
    cases ready.symm.trans state
    cases given
    cases featurized.symm.trans failing
  | first state given featurized told seen changed =>
    cases ready.symm.trans state
    cases given
    rw [failed] at told
    exact ⟨e, _, congrArg Prod.fst told, featurized, changed, seen⟩

-- Whatever goes wrong, the message is kept. What else was there is kept too, unless it is the message that
-- goes wrong behind test data that were looked at for it.
theorem process_fails_cleanly_iff (path : Reached config featurizer) (message : Message)
    (testData : Option TrainingData) :
    (∀ e, (featurizer.process message testData).result = .error e →
      (featurizer.process message testData).message = message) ∧
    (FailsCleanly featurizer message testData ↔ ¬(SeesTestData featurizer testData ∧ Clashes config message)) := by
  have sound := reached_sound path
  refine ⟨?_, ?_, ?_⟩
  · intro e failed
    cases (process_ends : ProcessEnd featurizer message testData _) with
    | untrained _ _ _ same => exact same
    | alone _ _ told => exact (afterMessage_error told failed).2
    | refused _ _ _ _ _ same => exact same
    | first _ _ _ told => exact (afterMessage_error told failed).2
  · rintro clean ⟨⟨⟨vectorizers, ready⟩, data, rfl⟩, clashes⟩
    obtain ⟨e, after, failed, _, _, seen⟩ := process_clash sound ready clashes
    have unchanged := congrArg Featurizer.state (clean e failed).1
    rw [seen, ready] at unchanged
    cases unchanged
  · intro harmless e failed
    cases (process_ends : ProcessEnd featurizer message testData _) with
    | untrained _ result => cases result.symm.trans failed
    | alone _ _ told unchanged kept => exact ⟨unchanged, (afterMessage_error told failed).2, kept⟩
    | refused _ _ _ _ unchanged same kept => exact ⟨unchanged, same, kept⟩
    | first state given _ told =>
      have trained := congrArg State.vectorizers? state
      have clashes := (processMessage_fails_iff sound trained).mp ⟨e, (afterMessage_error told failed).1⟩
      exact absurd ⟨⟨⟨_, state⟩, _, given⟩, clashes⟩ harmless

def lettersLearned : Featurizer := (exhausted.train none letters).featurizer

-- Its features are sparse, and dense ones are to be put behind them.
def sparselyMarked : Message := (Message.ofText "ab").setFeatures Field.textFeatures (.sparse (.ofEntries 1 []))

theorem reached_lettersLearned : Reached letterConfig lettersLearned := .step reached_exhausted (.train none letters)

theorem process_sparselyMarked :
    (Reached letterConfig lettersLearned ∧ SeesTestData lettersLearned (some letters) ∧
      Clashes letterConfig sparselyMarked) ∧
    (∀ e, (lettersLearned.process sparselyMarked (some letters)).result = .error e →
      (lettersLearned.process sparselyMarked (some letters)).message = sparselyMarked) ∧
    ¬FailsCleanly lettersLearned sparselyMarked (some letters) ∧ FailsCleanly lettersLearned sparselyMarked none := by
  have sees : SeesTestData lettersLearned (some letters) := ⟨⟨_, rfl⟩, _, rfl⟩
  have clashes : Clashes letterConfig sparselyMarked := ⟨rfl, rfl, _, rfl, by simp [Features.kind]⟩
  obtain ⟨kept, clean⟩ := process_fails_cleanly_iff reached_lettersLearned sparselyMarked (some letters)
  obtain ⟨_, cleanAlone⟩ := process_fails_cleanly_iff reached_lettersLearned sparselyMarked none
  refine ⟨⟨reached_lettersLearned, sees, clashes⟩, kept, ?_, ?_⟩
  · exact fun claimed => clean.mp claimed ⟨sees, clashes⟩
  · exact cleanAlone.mpr (by simp [SeesTestData])

-- After the failure the featurizer takes the test data for seen, so that no later call gives them back.
theorem failure_spoils_test_data :
    Reached letterConfig lettersLearned ∧ ¬FailsCleanly lettersLearned sparselyMarked (some letters) := by
  refine ⟨reached_lettersLearned, ?_⟩
  intro clean
  have unchanged := congrArg (fun featurizer => featurizer.state.isTestDataFeaturized) (clean _ rfl).1
  have before : lettersLearned.state.isTestDataFeaturized = false := rfl
  have after : (lettersLearned.process sparselyMarked (some letters)).featurizer.state.isTestDataFeaturized = true := rfl
  rw [before, after] at unchanged
  cases unchanged

end TextFeatures.Featurizer
