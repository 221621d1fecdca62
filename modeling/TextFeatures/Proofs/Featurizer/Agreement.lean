import TextFeatures.Proofs.Featurizer.Writing
import TextFeatures.Proofs.Matrix.Filling

namespace TextFeatures

variable {α β γ : Type}

inductive Forall₃ (R : α → β → γ → Prop) : List α → List β → List γ → Prop
  | nil : Forall₃ R [] [] []
  | cons {a : α} {b : β} {c : γ} {as : List α} {bs : List β} {cs : List γ} : R a b c → Forall₃ R as bs cs →
      Forall₃ R (a :: as) (b :: bs) (c :: cs)

theorem forall₃_of_forall₂ {R : α → β → Prop} {S : α → γ → Prop} {T : α → β → γ → Prop} {as : List α}
    {bs : List β} {cs : List γ} (first : List.Forall₂ R as bs) (second : List.Forall₂ S as cs)
    (joined : ∀ a ∈ as, ∀ b c, R a b → S a c → T a b c) : Forall₃ T as bs cs := by
  induction first generalizing cs with
  | nil =>
    cases second
    exact .nil
  | cons here _ ih =>
    cases second with
    | cons there later =>
      exact .cons (joined _ List.mem_cons_self _ _ here there)
        (ih later fun a member => joined a (List.mem_cons_of_mem _ member))

namespace Featurizer

variable {config : Config} {normalizer : Normalizer}

section Forms
variable {vocabulary : Vocabulary} {vectorizer : Vectorizer} {height : Nat} {text : String}
  {dense sparse : Features Float}

-- The two forms of the counts of one text. In a dense sequence rows of -1 stand behind those of the words, and
-- without them it is what the sparse one holds.
inductive Agree (config : Config) (height : Nat) (text : String) : Features Float → Features Float → Prop
  | row {values : List Float} {matrix : SparseMatrix Float} : config.sequence = false → matrix.rowCount = 1 →
      matrix.toDense = .ok ⟨matrix.columnCount, [values]⟩ → Agree config height text (.dense values) (.sparse matrix)
  | rows {filled rows : DenseMatrix Float} {matrix : SparseMatrix Float} : config.sequence = true →
      matrix.toDense = .ok rows → rows.rowCount = (wordsOf text).length → filled = rows.pad (-1) height →
      filled.rowCount = height → filled.withoutFilling = rows →
      Agree config height text (.sequence filled) (.sparse matrix)

theorem agree_ofRow {width : Nat} {row : List (Nat × Nat)} (bag : config.sequence = false) :
    Agree config height text (toFloats (ofRow { config with sparse := false } width row))
      (toFloats (ofRow { config with sparse := true } width row)) := by
  simp only [ofRow, Bool.false_eq_true, if_false, if_true, SparseMatrix.ofEntries_eq]
  exact .row bag rfl SparseMatrix.toDense_counts

theorem agree_ofRows {width : Nat} {rows : List (List (Nat × Nat))} (sequence : config.sequence = true)
    (wide : 0 < width) (count : rows.length = (wordsOf text).length) (within : (wordsOf text).length ≤ height) :
    Agree config height text (filled height (toFloats (ofRows { config with sparse := false } width rows)))
      (filled height (toFloats (ofRows { config with sparse := true } width rows))) := by
  let counts : DenseMatrix Nat := ⟨width, rows.map (SparseMatrix.denseRow width)⟩
  have inside : (DenseMatrix.ofCounts counts).rowCount = (wordsOf text).length := by
    simp [counts, DenseMatrix.ofCounts, DenseMatrix.rowCount, DenseMatrix.map, count]
  have nonempty : ∀ row ∈ counts.rows, row ≠ [] := by
    intro row member
    obtain ⟨entries, _, rfl⟩ := List.mem_map.mp member
    exact SparseMatrix.denseRow_ne_nil wide entries
  have filledUp : filled height (toFloats (ofRows { config with sparse := false } width rows)) =
      .sequence ((DenseMatrix.ofCounts counts).pad (-1) height) := by
    rw [filled_toFloats_ofRows]
    exact congrArg Features.sequence (DenseMatrix.map_pad Float.ofInt)
  rw [filledUp]
  exact .rows sequence SparseMatrix.toDense_counts inside rfl (DenseMatrix.rowCount_pad (inside ▸ within))
    (DenseMatrix.withoutFilling_pad nonempty)

theorem agree_of_own (trained : vectorizer.Trained { config with sparse := false } normalizer vocabulary)
    (within : (wordsOf text).length ≤ height)
    (ownDense : Own { config with sparse := false } vectorizer height text dense)
    (ownSparse : Own { config with sparse := true } vectorizer height text sparse) :
    Agree config height text dense sparse := by
  have trainedSparse : vectorizer.Trained { config with sparse := true } normalizer vocabulary :=
    ⟨trained.numbered, trained.configured⟩
  obtain ⟨countsDense, countedDense, rfl⟩ := (own_iff trained).mp ownDense
  obtain ⟨countsSparse, countedSparse, rfl⟩ := (own_iff trainedSparse).mp ownSparse
  cases countedAlone countedDense with
  | whole bag counted =>
    cases countedAlone countedSparse with
    | whole _ again =>
      cases counted.symm.trans again
      rw [filled_toFloats_ofRow, filled_toFloats_ofRow]
      exact agree_ofRow bag
    | wordByWord sequence => cases bag.symm.trans sequence
  | wordByWord sequence counted =>
    cases countedAlone countedSparse with
    | whole bag => cases bag.symm.trans sequence
    | wordByWord _ again =>
      cases counted.symm.trans again
      exact agree_ofRows sequence trained.numbered.size_pos (mapM_eq_ok_iff.mp counted).length_eq.symm within

end Forms

-- A message as two featurizers leave it behind: with the two forms of the same counts, and no other difference.
structure Twofold (config : Config) (fields : List Counted) (before dense sparse : Message) : Prop where
  agree : ∀ counted ∈ fields, ∃ inDense inSparse, dense.features? counted.field = some inDense ∧
    sparse.features? counted.field = some inSparse ∧
    Agree config (longest counted.batch) counted.text inDense inSparse
  sameText : dense.text = before.text ∧ sparse.text = before.text
  otherFields : ∀ name ∉ fields.map Counted.field,
    dense.get? name = before.get? name ∧ sparse.get? name = before.get? name

def TwofoldExample (config : Config) (fields : Message → List Counted) (before dense sparse : Message) : Prop :=
  if before.hasIntent then Twofold config (fields before) before dense sparse else dense = before ∧ sparse = before

inductive TrainedAlike (config : Config) (data : TrainingData) (dense sparse : TrainOutcome) : Prop
  | failed : dense.result = .ok () → sparse.result = .ok () → dense.featurizer.state = .failed →
      sparse.featurizer.state = .failed → dense.data = data → sparse.data = data →
      TrainedAlike config data dense sparse
  | ready {vectorizers : Vectorizers} : dense.result = .ok () → sparse.result = .ok () →
      dense.featurizer.state = .ready vectorizers → sparse.featurizer.state = .ready vectorizers →
      Forall₃ (TwofoldExample config (exampleFields (Channels.ofExamples data.intentExamples))) data.examples
        dense.data.examples sparse.data.examples → TrainedAlike config data dense sparse

inductive ProcessedAlike (config : Config) (state : State) (message : Message) (testData : Option TrainingData)
    (dense sparse : ProcessOutcome) : Prop
  | untrained : state.vectorizers? = none → dense.result = .ok false → sparse.result = .ok false →
      dense.message = message → sparse.message = message → dense.testData = testData → sparse.testData = testData →
      ProcessedAlike config state message testData dense sparse
  | alone {vectorizers : Vectorizers} : state.vectorizers? = some vectorizers →
      state = .testDataFeaturized vectorizers ∨ testData = none → dense.result = .ok false →
      sparse.result = .ok false → Twofold config (messageFields message) message dense.message sparse.message →
      dense.testData = testData → sparse.testData = testData →
      ProcessedAlike config state message testData dense sparse
  | first {vectorizers : Vectorizers} {data inDense inSparse : TrainingData} : state = .ready vectorizers →
      testData = some data → dense.result = .ok true → sparse.result = .ok true →
      Twofold config (messageFields message) message dense.message sparse.message →
      dense.testData = some inDense → sparse.testData = some inSparse →
      Forall₃ (TwofoldExample config (labelFields (Channels.ofExamples data.intentExamples))) data.examples
        inDense.examples inSparse.examples → ProcessedAlike config state message testData dense sparse

section Writing
variable {vectorizers : Vectorizers} {fields : Message → List Counted} {counted : List Counted}
  {before inDense inSparse : Message} {data denseData sparseData : TrainingData}

theorem twofold_of_writes (trained : vectorizers.Trained { config with sparse := false } normalizer)
    (among : ∀ each ∈ counted, each.text ∈ each.batch)
    (writesDense : Writes { config with sparse := false } vectorizers counted before inDense)
    (writesSparse : Writes { config with sparse := true } vectorizers counted before inSparse) :
    Twofold config counted before inDense inSparse := by
  refine ⟨?_, ⟨writesDense.sameText, writesSparse.sameText⟩, ?_⟩
  · intro each member
    obtain ⟨ownDense, writtenDense, ofDense⟩ := writesDense.own each member
    obtain ⟨ownSparse, writtenSparse, ofSparse⟩ := writesSparse.own each member
    obtain ⟨vocabulary, trainedField⟩ := trained_forField trained each.field
    exact ⟨ownDense, ownSparse, writtenDense, writtenSparse,
      agree_of_own trainedField (le_longest (among each member)) ofDense ofSparse⟩
  · exact fun name other => ⟨writesDense.otherFields name other, writesSparse.otherFields name other⟩

theorem twofold_examples (trained : vectorizers.Trained { config with sparse := false } normalizer)
    (among : ∀ message ∈ data.intentExamples, ∀ each ∈ fields message, each.text ∈ each.batch)
    (writesDense : List.Forall₂ (WritesExample { config with sparse := false } vectorizers fields) data.examples
      denseData.examples)
    (writesSparse : List.Forall₂ (WritesExample { config with sparse := true } vectorizers fields) data.examples
      sparseData.examples) :
    Forall₃ (TwofoldExample config fields) data.examples denseData.examples sparseData.examples := by
  refine forall₃_of_forall₂ writesDense writesSparse ?_
  intro before member inDense inSparse ofDense ofSparse
  unfold TwofoldExample
  unfold WritesExample at ofDense ofSparse
  cases intent : before.hasIntent with
  | false =>
    simp only [intent, Bool.false_eq_true, if_false] at ofDense ofSparse ⊢
    exact ⟨ofDense, ofSparse⟩
  | true =>
    simp only [intent, if_true] at ofDense ofSparse ⊢
    exact twofold_of_writes trained (among before (List.mem_filter.mpr ⟨member, intent⟩)) ofDense ofSparse

end Writing

-- Two featurizers that differ in one setting, and in nothing that they have learned.
structure Twins (config : Config) (dense sparse : Featurizer) : Prop where
  soundDense : Sound { config with sparse := false } dense
  soundSparse : Sound { config with sparse := true } sparse
  normalizer : sparse.normalizer = dense.normalizer
  state : sparse.state = dense.state

section Pairs
variable {dense sparse : Featurizer} {lemmatizer : Option Lemmatizer} {data : TrainingData} {message : Message}
  {testData : Option TrainingData}

theorem Twins.train (twins : Twins config dense sparse)
    (unmarked : ∀ message ∈ data.intentExamples, Unmarked message) :
    TrainedAlike config data (dense.train lemmatizer data) (sparse.train lemmatizer data) ∧
      Twins config (dense.train lemmatizer data).featurizer (sparse.train lemmatizer data).featurizer := by
  obtain ⟨soundDense, soundSparse, normalizer, state⟩ := twins
  have sameNormalizer : sparse.trainingNormalizer lemmatizer = dense.trainingNormalizer lemmatizer := by
    simp only [trainingNormalizer, normalizer]
  -- Nothing that is learned depends on the form of the output.
  have sameFit : fit { config with sparse := true } (sparse.trainingNormalizer lemmatizer)
      (Channels.ofExamples data.intentExamples) = fit { config with sparse := false }
      (dense.trainingNormalizer lemmatizer) (Channels.ofExamples data.intentExamples) := by
    rw [sameNormalizer]
    rfl
  have soundDenseAfter : Sound _ (dense.train lemmatizer data).featurizer := train_preserves soundDense
  have soundSparseAfter : Sound _ (sparse.train lemmatizer data).featurizer := train_preserves soundSparse
  cases fitted : (fit { config with sparse := false } (dense.trainingNormalizer lemmatizer)
      (Channels.ofExamples data.intentExamples)).1 with
  | error e =>
    obtain ⟨resultDense, stateDense, keptDense⟩ := train_unfit soundDense fitted
    obtain ⟨resultSparse, stateSparse, keptSparse⟩ := train_unfit soundSparse (sameFit ▸ fitted)
    refine ⟨.failed resultDense resultSparse ?_ ?_ keptDense keptSparse, soundDenseAfter, soundSparseAfter, ?_, ?_⟩ <;>
      simp [stateDense, stateSparse, normalizer]
  | ok vectorizers =>
    obtain ⟨resultDense, stateDense, writesDense⟩ := train_fit soundDense unmarked fitted
    obtain ⟨resultSparse, stateSparse, writesSparse⟩ := train_fit soundSparse unmarked (sameFit ▸ fitted)
    have trained := soundDenseAfter.trained vectorizers (by rw [stateDense]; rfl)
    have examples := twofold_examples trained example_among writesDense writesSparse
    refine ⟨.ready resultDense resultSparse (congrArg Featurizer.state stateDense)
      (congrArg Featurizer.state stateSparse) examples, soundDenseAfter, soundSparseAfter, ?_, ?_⟩
    · rw [stateDense, stateSparse]
      exact sameNormalizer
    · rw [stateDense, stateSparse]

theorem Twins.process (twins : Twins config dense sparse) (unmarked : Unmarked message) :
    ProcessedAlike config dense.state message testData (dense.process message testData)
        (sparse.process message testData) ∧
      Twins config (dense.process message testData).featurizer (sparse.process message testData).featurizer := by
  obtain ⟨soundDense, soundSparse, normalizer, sameState⟩ := twins
  have doneDense : ProcessDone _ dense.state message testData _ := process_done soundDense unmarked
  have doneSparse : ProcessDone _ sparse.state message testData _ := process_done soundSparse unmarked
  rw [sameState] at doneSparse
  have twinsAfter (same : (sparse.process message testData).featurizer.state =
      (dense.process message testData).featurizer.state) :
      Twins config (dense.process message testData).featurizer (sparse.process message testData).featurizer :=
    ⟨process_preserves soundDense, process_preserves soundSparse,
      process_normalizer.trans (normalizer.trans process_normalizer.symm), same⟩
  -- Which way a call goes hangs on the state and the test data alone, and so both go the same way.
  cases doneDense with
  | untrained untrained resultDense staysDense leftDense keptDense =>
    cases doneSparse with
    | untrained _ resultSparse staysSparse leftSparse keptSparse =>
      exact ⟨.untrained untrained resultDense resultSparse leftDense leftSparse keptDense keptSparse,
        twinsAfter (staysSparse.trans staysDense.symm)⟩
    | alone other => cases other.symm.trans untrained
    | first other => cases (congrArg State.vectorizers? other).symm.trans untrained
  | alone state unseen resultDense staysDense writesDense keptDense =>
    have trained := soundDense.trained _ state
    cases doneSparse with
    | untrained other => cases other.symm.trans state
    | alone other _ resultSparse staysSparse writesSparse keptSparse =>
      cases other.symm.trans state
      exact ⟨.alone state unseen resultDense resultSparse
        (twofold_of_writes trained message_among writesDense writesSparse) keptDense keptSparse,
        twinsAfter (staysSparse.trans staysDense.symm)⟩
    | first other given =>
      rcases unseen with seen | none
      · cases other.symm.trans seen
      · cases given.symm.trans none
  | first ready given resultDense seenDense writesDense changedDense dataDense =>
    have state := congrArg State.vectorizers? ready
    have trained := soundDense.trained _ state
    cases doneSparse with
    | untrained other => cases other.symm.trans state
    | alone _ unseen =>
      rcases unseen with seen | none
      · cases ready.symm.trans seen
      · cases given.symm.trans none
    | first other givenAgain resultSparse seenSparse writesSparse changedSparse dataSparse =>
      cases other.symm.trans ready
      cases givenAgain.symm.trans given
      exact ⟨.first ready given resultDense resultSparse
        (twofold_of_writes trained message_among writesDense writesSparse) changedDense changedSparse
        (twofold_examples trained label_among dataDense dataSparse),
        twinsAfter (seenSparse.trans seenDense.symm)⟩

-- Two featurizers that were made for the two forms of output and called alike, with what carries no features of its
-- own.
inductive Paired (config : Config) : Featurizer → Featurizer → Prop
  | made {dense sparse : Featurizer} {noticesDense noticesSparse : List Notice} :
      ofConfig { config with sparse := false } = (.ok dense, noticesDense) →
      ofConfig { config with sparse := true } = (.ok sparse, noticesSparse) → Paired config dense sparse
  | train {dense sparse : Featurizer} (lemmatizer : Option Lemmatizer) (data : TrainingData) :
      Paired config dense sparse → (∀ message ∈ data.intentExamples, Unmarked message) →
      Paired config (dense.train lemmatizer data).featurizer (sparse.train lemmatizer data).featurizer
  | process {dense sparse : Featurizer} (message : Message) (testData : Option TrainingData) :
      Paired config dense sparse → Unmarked message →
      Paired config (dense.process message testData).featurizer (sparse.process message testData).featurizer

theorem twins_of_made {noticesDense noticesSparse : List Notice}
    (madeDense : ofConfig { config with sparse := false } = (.ok dense, noticesDense))
    (madeSparse : ofConfig { config with sparse := true } = (.ok sparse, noticesSparse)) :
    Twins config dense sparse := by
  have soundDense : Sound { config with sparse := false } dense := sound_ofConfig madeDense
  have soundSparse : Sound { config with sparse := true } sparse := sound_ofConfig madeSparse
  obtain ⟨_, rfl⟩ := ofConfig_eq_ok madeDense
  obtain ⟨_, rfl⟩ := ofConfig_eq_ok madeSparse
  exact ⟨soundDense, soundSparse, rfl, rfl⟩

theorem paired_twins (paired : Paired config dense sparse) : Twins config dense sparse := by
  induction paired with
  | made madeDense madeSparse => exact twins_of_made madeDense madeSparse
  | train _ _ _ unmarked ih => exact (ih.train unmarked).2
  | process _ _ _ unmarked ih => exact (ih.process unmarked).2

-- The form of the output is a matter of form: whatever two such featurizers are given, they learn the same, and
-- put the same counts on it.
theorem dense_agrees_with_sparse (paired : Paired config dense sparse) :
    dense.normalizer = sparse.normalizer ∧ dense.state = sparse.state ∧
    (∀ lemmatizer data, (∀ message ∈ data.intentExamples, Unmarked message) →
      TrainedAlike config data (dense.train lemmatizer data) (sparse.train lemmatizer data)) ∧
    ∀ message testData, Unmarked message →
      ProcessedAlike config dense.state message testData (dense.process message testData)
        (sparse.process message testData) := by
  have twins := paired_twins paired
  exact ⟨twins.normalizer.symm, twins.state.symm, fun _ _ unmarked => (twins.train unmarked).1,
    fun _ _ unmarked => (twins.process unmarked).1⟩

end Pairs

def letteredDense : Featurizer := (unlettered.train none unequal).featurizer

def letteredSparse : Featurizer :=
  ({ unlettered with config := { wordwise with sparse := true } }.train none unequal).featurizer

theorem lettered_agrees :
    (Paired wordwise letteredDense letteredSparse ∧ letteredDense.state.isTrained = true ∧
      (∀ message ∈ unequal.intentExamples, Unmarked message) ∧ Unmarked (.ofText "ba")) ∧
    letteredDense.normalizer = letteredSparse.normalizer ∧ letteredDense.state = letteredSparse.state ∧
    TrainedAlike wordwise unequal (letteredDense.train none unequal) (letteredSparse.train none unequal) ∧
    ProcessedAlike wordwise letteredDense.state (.ofText "ba") (some unequal)
      (letteredDense.process (.ofText "ba") (some unequal)) (letteredSparse.process (.ofText "ba") (some unequal)) := by
  have unmarked : ∀ message ∈ unequal.intentExamples, Unmarked message := by decide +kernel
  have unmarkedMessage : Unmarked (.ofText "ba") := by decide +kernel
  have paired : Paired wordwise letteredDense letteredSparse := .train none unequal (.made rfl rfl) unmarked
  obtain ⟨normalizer, state, train, process⟩ := dense_agrees_with_sparse paired
  exact ⟨⟨paired, by decide +kernel, unmarked, unmarkedMessage⟩, normalizer, state, train none unequal unmarked,
    process (.ofText "ba") (some unequal) unmarkedMessage⟩

end Featurizer

end TextFeatures
