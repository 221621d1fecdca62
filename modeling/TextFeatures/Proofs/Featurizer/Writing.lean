import TextFeatures.Proofs.Featurizer.Repeating

namespace TextFeatures

def Vectorizers.forField (vectorizers : Vectorizers) (field : String) : Vectorizer :=
  if field = Field.textFeatures then vectorizers.forText else vectorizers.forLabel

namespace Featurizer

variable {config : Config} {normalizer : Normalizer} {vectorizers : Vectorizers} {channels : Channels}
  {featurizer : Featurizer} {message before after : Message} {data : TrainingData} {testData : Option TrainingData}
  {lemmatizer : Option Lemmatizer} {own : Features Float}

-- A field for features, the text that they are counted from, and the texts that are counted with it.
structure Counted where
  field : String
  text : String
  batch : List String

def labelFields (channels : Channels) (message : Message) : List Counted :=
  [⟨Field.intentFeatures, message.intentText, channels.intents⟩,
    ⟨Field.responseFeatures, message.responseText, channels.responses⟩]

def exampleFields (channels : Channels) (message : Message) : List Counted :=
  ⟨Field.textFeatures, message.messageText, channels.messages⟩ :: labelFields channels message

def messageFields (message : Message) : List Counted :=
  [⟨Field.textFeatures, message.messageText, [message.messageText]⟩]

def Unmarked (message : Message) : Prop := message.features? Field.textFeatures = none

instance : DecidablePred Unmarked := fun message =>
  inferInstanceAs (Decidable (message.features? Field.textFeatures = none))

-- What one featurizer does to a message: to each of the fields go the features of its text.
structure Writes (config : Config) (vectorizers : Vectorizers) (fields : List Counted) (before after : Message) :
    Prop where
  own : ∀ counted ∈ fields, ∃ own, after.features? counted.field = some own ∧
    Own config (vectorizers.forField counted.field) (longest counted.batch) counted.text own
  sameText : after.text = before.text
  otherFields : ∀ name ∉ fields.map Counted.field, after.get? name = before.get? name

def WritesExample (config : Config) (vectorizers : Vectorizers) (fields : Message → List Counted)
    (before after : Message) : Prop :=
  if before.hasIntent then Writes config vectorizers (fields before) before after else after = before

theorem label_among : ∀ message ∈ data.intentExamples,
    ∀ each ∈ labelFields (Channels.ofExamples data.intentExamples) message, each.text ∈ each.batch := by
  intro message member
  simp only [labelFields, Channels.ofExamples, List.forall_mem_cons]
  exact ⟨List.mem_map_of_mem member, List.mem_map_of_mem member, by simp⟩

theorem example_among : ∀ message ∈ data.intentExamples,
    ∀ each ∈ exampleFields (Channels.ofExamples data.intentExamples) message, each.text ∈ each.batch := by
  intro message member
  rw [exampleFields, List.forall_mem_cons]
  exact ⟨List.mem_map_of_mem member, label_among message member⟩

theorem message_among : ∀ each ∈ messageFields message, each.text ∈ each.batch := by
  simp [messageFields]

theorem trained_forField (trained : vectorizers.Trained config normalizer) (field : String) :
    ∃ vocabulary, (vectorizers.forField field).Trained config normalizer vocabulary := by
  unfold Vectorizers.forField
  split
  · exact trained.forText
  · exact trained.forLabel

theorem mergeText_unmarked (unmarked : Unmarked message) : mergeText message own = .ok own := by
  cases own with
  | dense values =>
    have none : message.features? Field.textFeatures = none := unmarked
    simp [mergeText, none, Features.combine]
  | _ => rfl

theorem Featurized.writes (featurized : Featurized config vectorizers channels before after)
    (unmarked : Unmarked before) : Writes config vectorizers (exampleFields channels before) before after := by
  obtain ⟨⟨own, merged, ofText, combined, text⟩, ⟨intentOwn, ofIntent, intent⟩, ⟨responseOwn, ofResponse, response⟩,
    sameText, otherFields⟩ := featurized
  rw [mergeText_unmarked unmarked] at combined
  obtain rfl := Except.ok.inj combined
  refine ⟨?_, sameText, otherFields⟩
  simp only [exampleFields, labelFields, List.forall_mem_cons]
  exact ⟨⟨own, text, ofText⟩, ⟨intentOwn, intent, ofIntent⟩, ⟨responseOwn, response, ofResponse⟩, by simp⟩

theorem TrainedOn.writes (trainedOn : TrainedOn config vectorizers channels before after)
    (unmarked : before.hasIntent = true → Unmarked before) :
    WritesExample config vectorizers (exampleFields channels) before after := by
  unfold WritesExample
  unfold TrainedOn at trainedOn
  cases intent : before.hasIntent with
  | false => simpa [intent] using trainedOn
  | true =>
    simp only [intent, if_true] at trainedOn ⊢
    exact trainedOn.writes (unmarked intent)

theorem mergeExample_unmarked {computed : ExampleFeatures} (unmarked : Unmarked message) :
    mergeExample (message, computed) = .ok computed :=
  mergeExample_eq_ok_iff.mpr ⟨mergeText_unmarked unmarked, rfl, rfl⟩

theorem exists_learn {examples : List Message} (accepted : config.validate = .ok ())
    (unmarked : ∀ message ∈ examples, Unmarked message)
    (fitted : (fit config normalizer (Channels.ofExamples examples)).1 = .ok vectorizers) :
    ∃ merged, (learn config normalizer examples).1 = .ok (vectorizers, merged) := by
  obtain ⟨computed, featurized, _⟩ := exists_featuresOfChannels accepted (fit_eq_ok_iff.mp fitted).trained examples
  obtain ⟨merged, combined⟩ := exists_mapM fun pair (member : pair ∈ examples.zip computed) =>
    ⟨pair.2, mergeExample_unmarked (unmarked pair.1 (List.of_mem_zip member).1)⟩
  refine ⟨merged, ?_⟩
  rw [fst_learn, fitted, ok_bind, featurized, ok_bind, combined]
  rfl

theorem train_unfit {e : Error} (sound : Sound config featurizer)
    (failed : (fit config (featurizer.trainingNormalizer lemmatizer) (Channels.ofExamples data.intentExamples)).1 =
      .error e) :
    (featurizer.train lemmatizer data).result = .ok () ∧
      (featurizer.train lemmatizer data).featurizer = { featurizer with state := .failed } ∧
      (featurizer.train lemmatizer data).data = data := by
  obtain ⟨rfl, accepted, _⟩ := sound
  obtain ⟨cause, rfl⟩ := fit_error accepted failed
  have missing : featurizer.learnedFrom lemmatizer data = .error (.vocabulary cause) := by
    rw [learnedFrom, fst_learn, failed]
    rfl
  cases (train_ends : TrainEnd featurizer lemmatizer data _) with
  | unlearned _ result state same => exact ⟨result, state, same⟩
  | refused learned other =>
    cases missing.symm.trans learned
    exact absurd rfl (other cause)
  | trained learned => cases missing.symm.trans learned

theorem train_fit (sound : Sound config featurizer) (unmarked : ∀ message ∈ data.intentExamples, Unmarked message)
    (fitted : (fit config (featurizer.trainingNormalizer lemmatizer) (Channels.ofExamples data.intentExamples)).1 =
      .ok vectorizers) :
    (featurizer.train lemmatizer data).result = .ok () ∧
      (featurizer.train lemmatizer data).featurizer =
        { featurizer with normalizer := featurizer.trainingNormalizer lemmatizer, state := .ready vectorizers } ∧
      List.Forall₂ (WritesExample config vectorizers (exampleFields (Channels.ofExamples data.intentExamples)))
        data.examples (featurizer.train lemmatizer data).data.examples := by
  obtain ⟨rfl, accepted, _⟩ := sound
  obtain ⟨merged, learned⟩ := exists_learn accepted unmarked fitted
  cases (train_ends : TrainEnd featurizer lemmatizer data (featurizer.train lemmatizer data)) with
  | unlearned missing => cases missing.symm.trans learned
  | refused missing => cases missing.symm.trans learned
  | trained same result state =>
    cases same.symm.trans learned
    have each := train_trainedOn accepted result (congrArg Featurizer.state state)
    refine ⟨result, state, ((List.forall₂_and_left _ _).mpr ⟨fun _ => id, each⟩).imp ?_⟩
    rintro before after ⟨member, trainedOn⟩
    exact trainedOn.writes fun intent => unmarked before (List.mem_filter.mpr ⟨member, intent⟩)

theorem featurizeTestData_writes {after : TrainingData} (trained : vectorizers.Trained config normalizer)
    (featurized : featurizeTestData config vectorizers data = .ok after) :
    List.Forall₂ (WritesExample config vectorizers (labelFields (Channels.ofExamples data.intentExamples)))
      data.examples after.examples := by
  obtain ⟨_, trainedLabel⟩ := trained.forLabel
  simp only [featurizeTestData, bind_eq_ok_iff, pure_eq_ok, Except.ok.injEq] at featurized
  obtain ⟨intents, ofIntents, responses, ofResponses, rfl⟩ := featurized
  have ownIntents := List.forall₂_map_left_iff.mp ((features_eq_ok_iff trainedLabel).mp ofIntents)
  have ownResponses := List.forall₂_map_left_iff.mp ((features_eq_ok_iff trainedLabel).mp ofResponses)
  refine (TrainingData.forall₂_updateIntents (forall₂_zip ownIntents ownResponses)).imp ?_
  intro before after updated
  unfold WritesExample
  cases updated with
  | kept intent => simp [intent]
  | changed intent own =>
    simp only [intent, if_true]
    refine ⟨?_, rfl, ?_⟩
    · simp only [labelFields, List.forall_mem_cons]
      refine ⟨⟨_, ?_, own.1⟩, ⟨_, ?_, own.2⟩, by simp⟩
      · simp [Message.features?, setLabelFeatures, Field.intentFeatures, Field.responseFeatures]
      · simp [Message.features?, setLabelFeatures]
    · intro name other
      simp only [labelFields, List.map_cons, List.map_nil, List.mem_cons, List.not_mem_nil, or_false, not_or] at other
      simp [setLabelFeatures, other]

theorem processMessage_writes (sound : Sound config featurizer)
    (state : featurizer.state.vectorizers? = some vectorizers) (unmarked : Unmarked message) :
    ∃ processed, featurizer.processMessage vectorizers message = .ok processed ∧
      Writes config vectorizers (messageFields message) message processed := by
  obtain ⟨rfl, accepted, trained⟩ := sound
  obtain ⟨vocabulary, trainedText⟩ := (trained vectorizers state).forText
  obtain ⟨counts, counted⟩ := exists_countsAlone accepted trainedText.serves message.messageText
  refine ⟨message.setFeatures Field.textFeatures (toFloats counts), ?_, ?_, rfl, ?_⟩
  · rw [processMessage, messageFeatures_eq trainedText, counted, ok_bind, mergeText_unmarked unmarked]
    rfl
  · simp only [messageFields, List.forall_mem_cons]
    refine ⟨⟨toFloats counts, by simp [Message.features?], ?_⟩, by simp⟩
    exact (own_iff trainedText).mpr ⟨counts, counted, filled_alone counted⟩
  · intro name other
    simp only [messageFields, List.map_cons, List.map_nil, List.mem_singleton] at other
    simp [other]

-- What a call leaves behind that can go wrong nowhere.
inductive ProcessDone (config : Config) (state : State) (message : Message) (testData : Option TrainingData)
    (outcome : ProcessOutcome) : Prop
  | untrained (untrained : state.vectorizers? = none) (result : outcome.result = .ok false)
      (stays : outcome.featurizer.state = state) (same : outcome.message = message)
      (kept : outcome.testData = testData)
  | alone {vectorizers : Vectorizers} (trained : state.vectorizers? = some vectorizers)
      (unseen : state = .testDataFeaturized vectorizers ∨ testData = none) (result : outcome.result = .ok false)
      (stays : outcome.featurizer.state = state)
      (writes : Writes config vectorizers (messageFields message) message outcome.message)
      (kept : outcome.testData = testData)
  | first {vectorizers : Vectorizers} {data after : TrainingData} (ready : state = .ready vectorizers)
      (given : testData = some data) (result : outcome.result = .ok true)
      (seen : outcome.featurizer.state = .testDataFeaturized vectorizers)
      (writes : Writes config vectorizers (messageFields message) message outcome.message)
      (changed : outcome.testData = some after)
      (writesData : List.Forall₂ (WritesExample config vectorizers
        (labelFields (Channels.ofExamples data.intentExamples))) data.examples after.examples)

theorem process_done {featurizer : Featurizer} (sound : Sound config featurizer) (unmarked : Unmarked message) :
    ProcessDone config featurizer.state message testData (featurizer.process message testData) := by
  have done {vectorizers : Vectorizers} (state : featurizer.state.vectorizers? = some vectorizers) {seen : Bool}
      (told : ((featurizer.process message testData).result, (featurizer.process message testData).message) =
        afterMessage seen message (featurizer.processMessage vectorizers message)) :
      (featurizer.process message testData).result = .ok seen ∧ Writes config vectorizers (messageFields message)
        message (featurizer.process message testData).message := by
    obtain ⟨processed, made, writes⟩ := processMessage_writes sound state unmarked
    rw [made] at told
    obtain ⟨result, left⟩ := Prod.mk.inj told
    exact ⟨result, left ▸ writes⟩
  cases (process_ends : ProcessEnd featurizer message testData _) with
  | untrained state result unchanged same kept =>
    exact .untrained state result (congrArg Featurizer.state unchanged) same kept
  | alone state unseen told unchanged kept =>
    obtain ⟨result, writes⟩ := done state told
    exact .alone state unseen result (congrArg Featurizer.state unchanged) writes kept
  | @refused _ data _ state _ failed =>
    obtain ⟨after, featurized⟩ := exists_featurizeTestData sound (congrArg State.vectorizers? state) data
    cases featurized.symm.trans failed
  | first state given featurized told seen changed =>
    have trainedState := congrArg State.vectorizers? state
    obtain ⟨result, writes⟩ := done trainedState told
    obtain ⟨rfl, _, trained⟩ := sound
    exact .first state given result (congrArg Featurizer.state seen) writes changed
      (featurizeTestData_writes (trained _ trainedState) featurized)

end Featurizer

end TextFeatures
