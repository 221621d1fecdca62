import TextFeatures.Featurizer.Processing
import TextFeatures.Proofs.Featurizer.Learning

namespace TextFeatures.Featurizer

inductive Step : Featurizer → Featurizer → Prop
  | train {featurizer : Featurizer} (lemmatizer : Option Lemmatizer) (data : TrainingData) :
      Step featurizer (featurizer.train lemmatizer data).featurizer
  | process {featurizer : Featurizer} (message : Message) (testData : Option TrainingData) :
      Step featurizer (featurizer.process message testData).featurizer

inductive Reached (config : Config) : Featurizer → Prop
  | made {featurizer : Featurizer} {notices : List Notice} : ofConfig config = (.ok featurizer, notices) →
      Reached config featurizer
  | step {before after : Featurizer} : Reached config before → Step before after → Reached config after

variable {config : Config} {featurizer next : Featurizer} {lemmatizer : Option Lemmatizer} {data : TrainingData}
  {message : Message} {testData : Option TrainingData}

def learnedFrom (featurizer : Featurizer) (lemmatizer : Option Lemmatizer) (data : TrainingData) :
    Except Error (Vectorizers × List ExampleFeatures) :=
  (learn featurizer.config (featurizer.trainingNormalizer lemmatizer) data.intentExamples).1

-- How training can end, by what was learned, and what it leaves behind.
inductive TrainEnd (featurizer : Featurizer) (lemmatizer : Option Lemmatizer) (data : TrainingData)
    (outcome : TrainOutcome) : Prop
  | unlearned {cause : VocabularyError} (learned : featurizer.learnedFrom lemmatizer data = .error (.vocabulary cause))
      (result : outcome.result = .ok ()) (state : outcome.featurizer = { featurizer with state := .failed })
      (same : outcome.data = data)
  | refused {e : Error} (learned : featurizer.learnedFrom lemmatizer data = .error e)
      (other : ∀ cause, e ≠ .vocabulary cause) (result : outcome.result = .error e)
      (unchanged : outcome.featurizer = featurizer) (same : outcome.data = data)
  | trained {vectorizers : Vectorizers} {features : List ExampleFeatures}
      (learned : featurizer.learnedFrom lemmatizer data = .ok (vectorizers, features))
      (result : outcome.result = .ok ())
      (state : outcome.featurizer = { featurizer with
        normalizer := featurizer.trainingNormalizer lemmatizer, state := .ready vectorizers })
      (changed : outcome.data = data.mapIntentExamples setFeatures features)

theorem train_ends : TrainEnd featurizer lemmatizer data (featurizer.train lemmatizer data) := by
  obtain ⟨learned, notices, outcome⟩ : ∃ learned notices, learn featurizer.config
      (featurizer.trainingNormalizer lemmatizer) data.intentExamples = (learned, notices) := ⟨_, _, rfl⟩
  have told : featurizer.learnedFrom lemmatizer data = learned := congrArg Prod.fst outcome
  cases learned with
  | error e =>
    cases e with
    | vocabulary cause =>
      refine .unlearned told ?_ ?_ ?_ <;> simp [train, outcome]
    | _ => refine .refused told (by simp) ?_ ?_ ?_ <;> simp [train, outcome]
  | ok found =>
    refine .trained told ?_ ?_ ?_ <;> simp [train, outcome]

def afterMessage (seen : Bool) (message : Message) : Except Error Message → Except Error Bool × Message
  | .error e => (.error e, message)
  | .ok processed => (.ok seen, processed)

-- How processing can end. Test data are only looked at by a featurizer that has not seen any since it was
-- trained, and nothing that happens to them hangs on the message.
inductive ProcessEnd (featurizer : Featurizer) (message : Message) (testData : Option TrainingData)
    (outcome : ProcessOutcome) : Prop
  | untrained (state : featurizer.state.vectorizers? = none) (result : outcome.result = .ok false)
      (unchanged : outcome.featurizer = featurizer) (same : outcome.message = message)
      (kept : outcome.testData = testData)
  | alone {vectorizers : Vectorizers} (state : featurizer.state.vectorizers? = some vectorizers)
      (unseen : featurizer.state = .testDataFeaturized vectorizers ∨ testData = none)
      (result : (outcome.result, outcome.message) =
        afterMessage false message (featurizer.processMessage vectorizers message))
      (unchanged : outcome.featurizer = featurizer) (kept : outcome.testData = testData)
  | refused {vectorizers : Vectorizers} {data : TrainingData} {e : Error}
      (state : featurizer.state = .ready vectorizers) (given : testData = some data)
      (featurized : featurizeTestData featurizer.config vectorizers data = .error e)
      (result : outcome.result = .error e) (unchanged : outcome.featurizer = featurizer)
      (same : outcome.message = message) (kept : outcome.testData = testData)
  | first {vectorizers : Vectorizers} {data after : TrainingData}
      (state : featurizer.state = .ready vectorizers) (given : testData = some data)
      (featurized : featurizeTestData featurizer.config vectorizers data = .ok after)
      (result : (outcome.result, outcome.message) =
        afterMessage true message (featurizer.processMessage vectorizers message))
      (seen : outcome.featurizer = { featurizer with state := .testDataFeaturized vectorizers })
      (changed : outcome.testData = some after)

theorem process_ends : ProcessEnd featurizer message testData (featurizer.process message testData) := by
  cases state : featurizer.state with
  | untrained => refine .untrained (by rw [state]; rfl) ?_ ?_ ?_ ?_ <;> simp [process, state, State.vectorizers?]
  | failed => refine .untrained (by rw [state]; rfl) ?_ ?_ ?_ ?_ <;> simp [process, state, State.vectorizers?]
  | testDataFeaturized vectorizers =>
    refine .alone (by rw [state]; rfl) (.inl state) ?_ ?_ ?_ <;>
      simp only [process, state, State.vectorizers?] <;>
      cases featurizer.processMessage vectorizers message <;> rfl
  | ready vectorizers =>
    cases testData with
    | none =>
      refine .alone (by rw [state]; rfl) (.inr rfl) ?_ ?_ ?_ <;>
        simp only [process, state, State.vectorizers?] <;>
        cases featurizer.processMessage vectorizers message <;> rfl
    | some data =>
      cases featurized : featurizeTestData featurizer.config vectorizers data with
      | error e => refine .refused state rfl featurized ?_ ?_ ?_ ?_ <;> simp [process, state, featurized]
      | ok after =>
        have sameFeatures : processMessage { featurizer with state := .testDataFeaturized vectorizers } vectorizers
            message = featurizer.processMessage vectorizers message := rfl
        refine .first state rfl featurized ?_ ?_ ?_ <;>
          simp only [process, state, featurized, sameFeatures] <;>
          cases featurizer.processMessage vectorizers message <;> rfl

theorem process_normalizer :
    (featurizer.process message testData).featurizer.normalizer = featurizer.normalizer := by
  cases (process_ends : ProcessEnd featurizer message testData _) with
  | untrained _ _ unchanged => rw [unchanged]
  | alone _ _ _ unchanged => rw [unchanged]
  | refused _ _ _ _ unchanged => rw [unchanged]
  | first _ _ _ _ seen => rw [seen]

-- What holds of every featurizer that was made with a configuration, whatever has been done with it.
structure Sound (config : Config) (featurizer : Featurizer) : Prop where
  configured : featurizer.config = config
  accepted : config.validate = .ok ()
  trained : ∀ vectorizers, featurizer.state.vectorizers? = some vectorizers →
    vectorizers.Trained config featurizer.normalizer

theorem ofConfig_eq_ok {notices : List Notice} (made : ofConfig config = (.ok featurizer, notices)) :
    config.validate = .ok () ∧ featurizer = ⟨config, (Normalizer.ofConfig config).1, .untrained⟩ := by
  unfold ofConfig at made
  split at made
  · cases made
  · rename_i accepted
    cases made
    exact ⟨accepted, rfl⟩

theorem sound_ofConfig {notices : List Notice} (made : ofConfig config = (.ok featurizer, notices)) :
    Sound config featurizer := by
  obtain ⟨accepted, rfl⟩ := ofConfig_eq_ok made
  exact ⟨rfl, accepted, by simp [State.vectorizers?]⟩

theorem train_preserves (sound : Sound config featurizer) :
    Sound config (featurizer.train lemmatizer data).featurizer := by
  obtain ⟨rfl, accepted, trained⟩ := sound
  cases (train_ends : TrainEnd featurizer lemmatizer data _) with
  | unlearned _ _ state =>
    rw [state]
    exact ⟨rfl, accepted, by simp [State.vectorizers?]⟩
  | refused _ _ _ unchanged =>
    rw [unchanged]
    exact ⟨rfl, accepted, trained⟩
  | trained learned _ state =>
    rw [state]
    refine ⟨rfl, accepted, ?_⟩
    rintro _ ⟨⟩
    exact (learn_eq_ok accepted learned).1.trained

theorem process_preserves (sound : Sound config featurizer) :
    Sound config (featurizer.process message testData).featurizer := by
  cases (process_ends : ProcessEnd featurizer message testData _) with
  | untrained _ _ unchanged => rwa [unchanged]
  | alone _ _ _ unchanged => rwa [unchanged]
  | refused _ _ _ _ unchanged => rwa [unchanged]
  | first state _ _ _ seen =>
    obtain ⟨rfl, accepted, trained⟩ := sound
    rw [seen]
    refine ⟨rfl, accepted, ?_⟩
    rintro _ ⟨⟩
    exact trained _ (by rw [state]; rfl)

theorem step_preserves (sound : Sound config featurizer) (step : Step featurizer next) : Sound config next := by
  cases step with
  | train => exact train_preserves sound
  | process => exact process_preserves sound

theorem reached_sound (path : Reached config featurizer) : Sound config featurizer := by
  induction path with
  | made built => exact sound_ofConfig built
  | step _ step ih => exact step_preserves ih step

end TextFeatures.Featurizer
