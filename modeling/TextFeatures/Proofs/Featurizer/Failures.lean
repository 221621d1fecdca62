import TextFeatures.Proofs.Checked.Calls
import TextFeatures.Proofs.Featurizer.Lifetimes

namespace TextFeatures.Featurizer

-- What is told when dense features are to go behind those of a message, and cannot.
def Refuses (message : Message) (e : Error) : Prop :=
  ∃ existing, message.features? Field.textFeatures = some existing ∧ existing.kind ≠ .dense ∧
    e = .features (.combination existing.kind)

variable {config : Config} {normalizer : Normalizer} {featurizer : Featurizer} {vectorizer : Vectorizer}
  {vectorizers : Vectorizers} {vocabulary : Vocabulary} {channels : Channels} {height : Nat} {text : String}
  {message : Message} {own : Features Float} {e : Error} {lemmatizer : Option Lemmatizer} {data : TrainingData}
  {testData : Option TrainingData} {examples : List Message} {computed : ExampleFeatures}
  {all : List ExampleFeatures}

theorem mergeText_refuses (failed : mergeText message own = .error e) : Refuses message e := by
  cases own with
  | dense values =>
    unfold mergeText at failed
    cases existing : message.features? Field.textFeatures with
    | none => simp [existing, Features.combine] at failed
    | some features =>
      cases features with
      | dense values => simp [existing, Features.combine] at failed
      | sequence rows =>
        simp only [existing, Features.combine, error_mapError, Except.error.injEq] at failed
        exact ⟨_, existing, by simp [Features.kind], failed.symm⟩
      | sparse rows =>
        simp only [existing, Features.combine, error_mapError, Except.error.injEq] at failed
        exact ⟨_, existing, by simp [Features.kind], failed.symm⟩
  | sequence rows => cases failed
  | sparse rows => cases failed

theorem own_kind (trained : vectorizer.Trained config normalizer vocabulary)
    (ofText : Own config vectorizer height text own) :
    own.kind = .dense ↔ config.sequence = false ∧ config.sparse = false := by
  obtain ⟨counts, counted, rfl⟩ := (own_iff trained).mp ofText
  have sameKind : (filled height (toFloats counts)).kind = counts.kind := by cases counts <;> rfl
  rw [sameKind, kind_countsAlone counted]

theorem mergeExample_fails_iff (trained : vectorizers.Trained config normalizer)
    (ofMessage : Computed config vectorizers channels message computed) :
    (∃ e, mergeExample (message, computed) = .error e) ↔ Clashes config message := by
  obtain ⟨_, trainedText⟩ := trained.forText
  have merging : (∃ e, mergeExample (message, computed) = .error e) ↔
      ∃ e, mergeText message computed.text = .error e := by
    unfold mergeExample
    cases mergeText message computed.text <;> simp
  rw [merging, mergeText_fails_iff, own_kind trainedText ofMessage.text, Clashes, and_assoc]

theorem merging_fails_iff (trained : vectorizers.Trained config normalizer)
    (each : List.Forall₂ (Computed config vectorizers channels) examples all) :
    (∃ e, (examples.zip all).mapM mergeExample = .error e) ↔ ∃ message ∈ examples, Clashes config message := by
  rw [mapM_fails_iff]
  induction each with
  | nil => simp
  | cons here _ ih =>
    rw [List.zip_cons_cons, List.exists_mem_cons_iff, List.exists_mem_cons_iff, ih, mergeExample_fails_iff trained here]

theorem learn_of_learned (accepted : config.validate = .ok ())
    (learned : Learned config normalizer (Channels.ofExamples examples) vectorizers) :
    ∃ all, List.Forall₂ (Computed config vectorizers (Channels.ofExamples examples)) examples all ∧
      (learn config normalizer examples).1 =
        ((examples.zip all).mapM mergeExample).map fun merged => (vectorizers, merged) := by
  obtain ⟨all, featurized, each⟩ := exists_featuresOfChannels accepted learned.trained examples
  refine ⟨all, each, ?_⟩
  rw [fst_learn, fit_eq_ok_iff.mpr learned, ok_bind, featurized, ok_bind]
  cases (examples.zip all).mapM mergeExample <;> rfl

theorem merging_refuses (failed : (examples.zip all).mapM mergeExample = .error e) :
    ∃ message ∈ examples, Refuses message e := by
  obtain ⟨pair, member, unmerged⟩ := exists_of_mapM_eq_error failed
  rcases bind_eq_error_iff.mp unmerged with refused | ⟨_, _, done⟩
  · exact ⟨pair.1, (List.of_mem_zip member).1, mergeText_refuses refused⟩
  · cases done

theorem error_map_iff {α β : Type} {result : Except Error α} {f : α → β} :
    result.map f = .error e ↔ result = .error e := by
  cases result <;> simp

theorem train_fails_iff (sound : Sound config featurizer) :
    (∃ e, (featurizer.train lemmatizer data).result = .error e) ↔
      (∀ corpus ∈ corpora config (Channels.ofExamples data.intentExamples),
        Vectorizer.Learnable config (featurizer.trainingNormalizer lemmatizer) corpus) ∧
      ∃ message ∈ data.intentExamples, Clashes config message := by
  obtain ⟨rfl, accepted, _⟩ := sound
  constructor
  · rintro ⟨e, failed⟩
    cases (train_ends : TrainEnd featurizer lemmatizer data _) with
    | unlearned _ result => cases result.symm.trans failed
    | trained _ result => cases result.symm.trans failed
    | refused refused other =>
      have learnable : ∀ corpus ∈ corpora featurizer.config (Channels.ofExamples data.intentExamples),
          Vectorizer.Learnable featurizer.config (featurizer.trainingNormalizer lemmatizer) corpus := by
        by_contra missing
        push Not at missing
        obtain ⟨cause, unlearned⟩ := (learn_vocabulary_error_iff accepted).mpr missing
        exact other cause (Except.error.inj (refused.symm.trans unlearned))
      obtain ⟨vectorizers, learned⟩ := exists_learned_iff.mpr learnable
      obtain ⟨all, each, comes⟩ := learn_of_learned accepted learned
      refine ⟨learnable, (merging_fails_iff learned.trained each).mp ⟨_, error_map_iff.mp (comes.symm.trans refused)⟩⟩
  · rintro ⟨learnable, clashing⟩
    obtain ⟨vectorizers, learned⟩ := exists_learned_iff.mpr learnable
    obtain ⟨all, each, comes⟩ := learn_of_learned accepted learned
    obtain ⟨e, unmerged⟩ := (merging_fails_iff learned.trained each).mpr clashing
    have failed : featurizer.learnedFrom lemmatizer data = .error e := comes.trans (error_map_iff.mpr unmerged)
    cases (train_ends : TrainEnd featurizer lemmatizer data (featurizer.train lemmatizer data)) with
    | unlearned missing =>
      obtain ⟨_, _, _, _, _, told⟩ := merging_refuses unmerged
      cases told.symm.trans (Except.error.inj (failed.symm.trans missing))
    | refused _ _ result => exact ⟨_, result⟩
    | trained learned => cases failed.symm.trans learned

theorem train_refuses (sound : Sound config featurizer)
    (failed : (featurizer.train lemmatizer data).result = .error e) :
    ∃ message ∈ data.intentExamples, Refuses message e := by
  obtain ⟨learnable, _⟩ := (train_fails_iff sound).mp ⟨e, failed⟩
  obtain ⟨rfl, accepted, _⟩ := sound
  obtain ⟨vectorizers, learned⟩ := exists_learned_iff.mpr learnable
  obtain ⟨all, _, comes⟩ := learn_of_learned accepted learned
  cases (train_ends : TrainEnd featurizer lemmatizer data _) with
  | unlearned _ result => cases result.symm.trans failed
  | trained _ result => cases result.symm.trans failed
  | refused refused _ result =>
    obtain rfl := Except.error.inj (result.symm.trans failed)
    exact merging_refuses (error_map_iff.mp (comes.symm.trans refused))

theorem processMessage_refuses (sound : Sound config featurizer)
    (state : featurizer.state.vectorizers? = some vectorizers)
    (failed : featurizer.processMessage vectorizers message = .error e) : Refuses message e := by
  obtain ⟨rfl, accepted, trained⟩ := sound
  obtain ⟨vocabulary, trainedText⟩ := (trained vectorizers state).forText
  obtain ⟨counts, counted⟩ := exists_countsAlone accepted trainedText.serves message.messageText
  rw [processMessage, messageFeatures_eq trainedText, counted, ok_bind] at failed
  rcases bind_eq_error_iff.mp failed with refused | ⟨_, _, done⟩
  · exact mergeText_refuses refused
  · cases done

theorem process_refuses (sound : Sound config featurizer)
    (failed : (featurizer.process message testData).result = .error e) : Refuses message e := by
  cases (process_ends : ProcessEnd featurizer message testData _) with
  | untrained _ result => cases result.symm.trans failed
  | alone state _ told => exact processMessage_refuses sound state (afterMessage_error told failed).1
  | @refused _ data _ state _ refused =>
    obtain ⟨after, featurized⟩ := exists_featurizeTestData sound (congrArg State.vectorizers? state) data
    cases featurized.symm.trans refused
  | first state _ _ told =>
    exact processMessage_refuses sound (congrArg State.vectorizers? state) (afterMessage_error told failed).1

theorem process_fails_iff (sound : Sound config featurizer) :
    (∃ e, (featurizer.process message none).result = .error e) ↔
      featurizer.state.isTrained = true ∧ Clashes config message := by
  cases (process_ends : ProcessEnd featurizer message none _) with
  | untrained state result => simp [result, State.isTrained, state]
  | refused _ given => cases given
  | first _ given => cases given
  | @alone vectorizers state _ told =>
    rw [← processMessage_fails_iff sound state]
    have trained : featurizer.state.isTrained = true := by rw [State.isTrained, state]; rfl
    constructor
    · rintro ⟨e, failed⟩
      exact ⟨trained, e, (afterMessage_error told failed).1⟩
    · rintro ⟨_, e, failed⟩
      rw [failed] at told
      exact ⟨e, congrArg Prod.fst told⟩

-- When a call fails, what it tells then, and that it goes through all its accesses without a breach.
theorem fails_exactly (path : Lived config featurizer) (lemmatizer : Option Lemmatizer) (data : TrainingData)
    (message : Message) (testData : Option TrainingData) :
    let normalizer := featurizer.trainingNormalizer lemmatizer
    let channels := Channels.ofExamples data.intentExamples
    ((∃ e, (featurizer.train lemmatizer data).result = .error e) ↔
      (∀ corpus ∈ corpora config channels, Vectorizer.Learnable config normalizer corpus) ∧
        ∃ message ∈ data.intentExamples, Clashes config message) ∧
    ((∃ e, (featurizer.process message none).result = .error e) ↔
      featurizer.state.isTrained = true ∧ Clashes config message) ∧
    (∀ e, (featurizer.train lemmatizer data).result = .error e → ∃ message ∈ data.intentExamples, Refuses message e) ∧
    (∀ e, (featurizer.process message testData).result = .error e → Refuses message e) ∧
    Checked.learn config normalizer data.intentExamples = Checked.told (learn config normalizer data.intentExamples).1 ∧
    ∀ vectorizers, featurizer.state.vectorizers? = some vectorizers →
      Checked.messageFeatures config vectorizers message = Checked.told (messageFeatures config vectorizers message) ∧
      ∀ seen, Checked.featurizeTestData config vectorizers seen =
        Checked.told (featurizeTestData config vectorizers seen) := by
  have sound := (lived_lasting path).toSound
  refine ⟨train_fails_iff sound, process_fails_iff sound, fun e => train_refuses sound, fun e => process_refuses sound,
    Checked.learn_eq sound.accepted _, fun vectorizers state => ?_⟩
  have trained := sound.trained vectorizers state
  exact ⟨Checked.messageFeatures_eq sound.accepted trained message, Checked.featurizeTestData_eq sound.accepted trained⟩

-- Its text can be learned from, and its features are sparse.
def sparselyLabelled : Message := labelled.setFeatures Field.textFeatures (.sparse (.ofEntries 1 []))

theorem lettersSeen_fails :
    Lived letterConfig lettersSeen ∧
    (∃ e, (lettersSeen.train none ⟨[.ofText "c", sparselyLabelled]⟩).result = .error e ∧ Refuses sparselyLabelled e) ∧
    (∃ e, (lettersSeen.process sparselyMarked none).result = .error e ∧ Refuses sparselyMarked e) ∧
    ∃ vectorizers, Checked.learn letterConfig lettersSeen.normalizer letters.intentExamples =
      Checked.told (learn letterConfig lettersSeen.normalizer letters.intentExamples).1 ∧
      lettersSeen.state.vectorizers? = some vectorizers ∧
      Checked.messageFeatures letterConfig vectorizers (.ofText "ab") =
        Checked.told (messageFeatures letterConfig vectorizers (.ofText "ab")) := by
  obtain ⟨trainFails, processFails, trainTells, processTells, _, _⟩ := fails_exactly lived_lettersSeen none
    ⟨[.ofText "c", sparselyLabelled]⟩ sparselyMarked none
  obtain ⟨_, _, _, _, learns, goesThrough⟩ := fails_exactly lived_lettersSeen none letters (.ofText "ab") none
  have learnable : ∀ corpus ∈ corpora letterConfig (Channels.ofExamples [sparselyLabelled]),
      Vectorizer.Learnable letterConfig lettersSeen.normalizer corpus := by
    have asMade : lettersSeen.normalizer = (Normalizer.ofConfig letterConfig).1 := by decide +kernel
    rw [asMade]
    exact exists_learned_iff.mp ⟨_, fit_eq_ok_iff.mp rfl⟩
  have clashes (message : Message) (features : SparseMatrix Float)
      (marked : message.features? Field.textFeatures = some (.sparse features)) : Clashes letterConfig message :=
    ⟨rfl, rfl, _, marked, by simp [Features.kind]⟩
  obtain ⟨ofTraining, refused⟩ := trainFails.mpr ⟨learnable, sparselyLabelled, List.mem_singleton_self _, clashes _ _ rfl⟩
  have trained : lettersSeen.state.isTrained = true := by decide +kernel
  obtain ⟨vectorizers, state⟩ := Option.isSome_iff_exists.mp trained
  obtain ⟨ofProcessing, alsoRefused⟩ := processFails.mpr ⟨trained, clashes _ _ rfl⟩
  obtain ⟨_, among, told⟩ := trainTells _ refused
  obtain rfl := List.mem_singleton.mp among
  exact ⟨lived_lettersSeen, ⟨_, refused, told⟩, ⟨_, alsoRefused, processTells _ alsoRefused⟩, vectorizers, learns, state,
    (goesThrough vectorizers state).1⟩

end TextFeatures.Featurizer
