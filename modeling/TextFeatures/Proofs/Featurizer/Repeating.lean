import TextFeatures.Proofs.Featurizer.Processing

namespace TextFeatures.Featurizer

variable {config : Config} {featurizer : Featurizer} {vectorizer : Vectorizer}
  {vectorizers : Vectorizers} {vocabulary : Vocabulary} {counts : Features Nat} {height : Nat} {text : String}
  {texts : List String} {message before processed : Message} {alone own merged : Features Float}
  {lemmatizer : Option Lemmatizer} {data : TrainingData} {testData : Option TrainingData}

-- Messages from which the same features are computed, to be put behind the same ones.
structure Alike (a b : Message) : Prop where
  text : a.text = b.text
  tokens : a.tokens? Field.tokens = b.tokens? Field.tokens
  lemmaTokens : a.tokens? Field.lemmaTokens = b.tokens? Field.lemmaTokens
  features : a.features? Field.textFeatures = b.features? Field.textFeatures

theorem Alike.messageText_eq (alike : Alike message before) : message.messageText = before.messageText := by
  simp only [Message.messageText, alike.text, alike.tokens, alike.lemmaTokens]

theorem Alike.mergeText_eq (alike : Alike message before) : mergeText message own = mergeText before own := by
  cases own with
  | dense values => simp only [mergeText, alike.features]
  | _ => rfl

-- Features of a text alone, and those of the same text among others: only dense sequences differ, and only by
-- the rows that fill them up.
inductive Repeats (config : Config) (height : Nat) : Features Float → Features Float → Prop
  | same {features : Features Float} : config.sequence = false ∨ config.sparse = true →
      Repeats config height features features
  | filled {rows : DenseMatrix Float} : config.sequence = true → config.sparse = false → rows.rowCount ≤ height →
      Repeats config height (.sequence rows) (.sequence (rows.pad (-1) height))

-- What training wrote on an example comes again when the featurizer processes messages like the example.
def ComesAgain (config : Config) (height : Nat) (featurizer : Featurizer) (before after : Message) : Prop :=
  ∀ message testData, Alike message before → ∃ processed trained seen,
    (featurizer.process message testData).result = .ok seen ∧
    (featurizer.process message testData).message.features? Field.textFeatures = some processed ∧
    after.features? Field.textFeatures = some trained ∧ Repeats config height processed trained

theorem le_longest (member : text ∈ texts) : (wordsOf text).length ≤ longest texts :=
  le_foldl_max (List.mem_map_of_mem member)

theorem repeats_filled (counted : countsAlone config vectorizer vocabulary text = .ok counts)
    (within : (wordsOf text).length ≤ height) :
    Repeats config height (toFloats counts) (filled height (toFloats counts)) := by
  cases countedAlone counted with
  | whole bag =>
    rw [filled_toFloats_ofRow]
    exact .same (.inl bag)
  | @wordByWord rows sequence each =>
    cases sparse : config.sparse with
    | true =>
      simp only [ofRows, sparse, if_true]
      exact .same (.inr sparse)
    | false =>
      simp only [ofRows, sparse, Bool.false_eq_true, if_false]
      refine .filled sequence sparse ?_
      have count := (mapM_eq_ok_iff.mp each).length_eq
      simpa [DenseMatrix.rowCount, DenseMatrix.map, ← count] using within

theorem Repeats.mergeText_eq_ok (repeats : Repeats config height alone own) (combined : mergeText message own = .ok merged) :
    ∃ processed, mergeText message alone = .ok processed ∧ Repeats config height processed merged := by
  cases repeats with
  | same form => exact ⟨merged, combined, .same form⟩
  | filled sequence sparse within =>
    cases combined
    exact ⟨_, rfl, .filled sequence sparse within⟩

theorem process_succeeds (state : featurizer.state.vectorizers? = some vectorizers)
    (done : featurizer.processMessage vectorizers message = .ok processed)
    (featurizable : ∀ data, ∃ after, featurizeTestData featurizer.config vectorizers data = .ok after) :
    (∃ seen, (featurizer.process message testData).result = .ok seen) ∧
      (featurizer.process message testData).message = processed := by
  cases (process_ends : ProcessEnd featurizer message testData _) with
  | untrained missing => cases state.symm.trans missing
  | alone same _ told =>
    cases state.symm.trans same
    rw [done] at told
    exact ⟨⟨_, congrArg Prod.fst told⟩, congrArg Prod.snd told⟩
  | @refused _ data _ ready _ failed =>
    cases state.symm.trans (congrArg State.vectorizers? ready)
    obtain ⟨after, featurized⟩ := featurizable data
    cases featurized.symm.trans failed
  | first ready _ _ told =>
    cases state.symm.trans (congrArg State.vectorizers? ready)
    rw [done] at told
    exact ⟨⟨_, congrArg Prod.fst told⟩, congrArg Prod.snd told⟩

theorem train_trainedOn (accepted : featurizer.config.validate = .ok ())
    (succeeded : (featurizer.train lemmatizer data).result = .ok ())
    (ready : (featurizer.train lemmatizer data).featurizer.state = .ready vectorizers) :
    List.Forall₂ (TrainedOn featurizer.config vectorizers (Channels.ofExamples data.intentExamples)) data.examples
      (featurizer.train lemmatizer data).data.examples := by
  cases (train_ends : TrainEnd featurizer lemmatizer data (featurizer.train lemmatizer data)) with
  | unlearned _ _ failed =>
    rw [failed] at ready
    cases ready
  | refused _ _ result => cases result.symm.trans succeeded
  | trained learned _ made changed =>
    rw [made] at ready
    cases ready
    rw [changed]
    exact forall₂_trainedOn (learn_eq_ok accepted learned).2

-- A message that comes right after training, as an example looked before it, gets the features of the example
-- once more.
theorem processing_repeats_training (path : Reached config featurizer)
    (succeeded : (featurizer.train lemmatizer data).result = .ok ())
    (ready : (featurizer.train lemmatizer data).featurizer.state = .ready vectorizers) :
    let outcome := featurizer.train lemmatizer data
    let height := longest (Channels.ofExamples data.intentExamples).messages
    List.Forall₂ (fun before after => before.hasIntent = true →
      ComesAgain config height outcome.featurizer before after) data.examples outcome.data.examples := by
  intro outcome height
  have sound := reached_sound path
  have soundAfter : Sound config outcome.featurizer := train_preserves sound
  obtain ⟨rfl, accepted, _⟩ := sound
  have state := congrArg State.vectorizers? ready
  obtain ⟨vocabulary, trained⟩ := (soundAfter.trained _ state).forText
  have each := (List.forall₂_and_left _ _).mpr ⟨fun _ => id, train_trainedOn accepted succeeded ready⟩
  refine each.imp ?_
  rintro before after ⟨member, trainedOn⟩ intent message testData alike
  simp only [TrainedOn, intent, if_true] at trainedOn
  obtain ⟨own, merged, ofText, combined, written⟩ := trainedOn.text
  obtain ⟨counts, counted, rfl⟩ := (own_iff trained).mp ofText
  have within : (wordsOf before.messageText).length ≤ height :=
    le_longest (List.mem_map_of_mem (List.mem_filter.mpr ⟨member, intent⟩))
  obtain ⟨processed, put, repeats⟩ := (repeats_filled counted within).mergeText_eq_ok combined
  have done : outcome.featurizer.processMessage vectorizers message =
      .ok (message.setFeatures Field.textFeatures processed) := by
    rw [processMessage, soundAfter.configured, messageFeatures_eq trained, alike.messageText_eq, counted, ok_bind,
      alike.mergeText_eq, put]
    rfl
  obtain ⟨⟨seen, result⟩, left⟩ := process_succeeds state done fun data => exists_featurizeTestData soundAfter state data
  refine ⟨processed, merged, seen, result, ?_, written, repeats⟩
  rw [left]
  simp [Message.features?]

-- Letters are counted word by word, in two texts that have not as many words.

def wordwise : Config := { letterConfig with sequence := true }

def intended (text : String) : Message := (Message.ofText text).set Field.intent (.text "x")

def unequal : TrainingData := ⟨[intended "ab b", .ofText "c", intended "a"]⟩

def unlettered : Featurizer := ⟨wordwise, (Normalizer.ofConfig wordwise).1, .untrained⟩

theorem unequal_repeats :
    (Reached wordwise unlettered ∧ (unlettered.train none unequal).result = .ok () ∧
      ∃ vectorizers, (unlettered.train none unequal).featurizer.state = .ready vectorizers) ∧
    List.Forall₂ (fun before after => before.hasIntent = true →
      ComesAgain wordwise 2 (unlettered.train none unequal).featurizer before after)
      unequal.examples (unlettered.train none unequal).data.examples := by
  have path : Reached wordwise unlettered := .made rfl
  have succeeded : (unlettered.train none unequal).result = .ok () := rfl
  obtain ⟨vectorizers, ready⟩ : ∃ vectorizers, (unlettered.train none unequal).featurizer.state = .ready vectorizers :=
    ⟨_, rfl⟩
  exact ⟨⟨path, succeeded, vectorizers, ready⟩, processing_repeats_training path succeeded ready⟩

end TextFeatures.Featurizer
