import TextFeatures.Proofs.Featurizer.Failures
import TextFeatures.Proofs.Featurizer.Writing

namespace TextFeatures

-- Channels of the same texts, each in an order of its own.
structure Channels.Shuffled (channels others : Channels) : Prop where
  messages : channels.messages.Perm others.messages
  intents : channels.intents.Perm others.intents
  responses : channels.responses.Perm others.responses

theorem Channels.shuffled_ofExamples {examples others : List Message} (shuffled : examples.Perm others) :
    (ofExamples examples).Shuffled (ofExamples others) :=
  ⟨shuffled.map _, shuffled.map _, shuffled.map _⟩

theorem Channels.Shuffled.symm {channels others : Channels} (shuffled : channels.Shuffled others) :
    others.Shuffled channels :=
  ⟨shuffled.messages.symm, shuffled.intents.symm, shuffled.responses.symm⟩

namespace Featurizer

variable {config : Config} {normalizer : Normalizer} {channels others : Channels} {vectorizer : Vectorizer}
  {vectorizers : Vectorizers} {featurizer : Featurizer} {lemmatizer : Option Lemmatizer} {data other : TrainingData}
  {texts otherTexts : List String} {text : String} {height : Nat} {own again : Features Float}
  {before after twin : Message}

theorem longest_perm (shuffled : texts.Perm otherTexts) : longest texts = longest otherTexts :=
  (shuffled.map _).foldl_eq' (fun _ _ _ _ _ => by omega) 0

theorem Learned.shuffled (accepted : config.validate = .ok ()) (shuffled : channels.Shuffled others)
    (learned : Learned config normalizer channels vectorizers) : Learned config normalizer others vectorizers := by
  obtain ⟨messages, intents, responses⟩ := shuffled
  cases learned with
  | shared both learns =>
    refine .shared both (learns.perm accepted ((messages.append intents).append ?_))
    split
    · exact .refl _
    · exact responses
  | separate apart learnsText learnsLabel =>
    refine .separate apart (learnsText.perm accepted messages) (learnsLabel.perm accepted (intents.append ?_))
    split
    · exact responses
    · exact .refl _

theorem train_clear (sound : Sound config featurizer)
    (fitted : (fit config (featurizer.trainingNormalizer lemmatizer) (Channels.ofExamples data.intentExamples)).1 =
      .ok vectorizers) (clear : ¬∃ message ∈ data.intentExamples, Clashes config message) :
    (featurizer.train lemmatizer data).result = .ok () ∧
      (featurizer.train lemmatizer data).featurizer =
        { featurizer with normalizer := featurizer.trainingNormalizer lemmatizer, state := .ready vectorizers } ∧
      List.Forall₂ (TrainedOn config vectorizers (Channels.ofExamples data.intentExamples)) data.examples
        (featurizer.train lemmatizer data).data.examples := by
  have unfailing : ¬∃ e, (featurizer.train lemmatizer data).result = .error e :=
    fun failing => clear ((train_fails_iff sound).mp failing).2
  obtain ⟨rfl, accepted, _⟩ := sound
  cases (train_ends : TrainEnd featurizer lemmatizer data (featurizer.train lemmatizer data)) with
  | unlearned missing =>
    obtain ⟨corpus, member, unlearned⟩ := (learn_vocabulary_error_iff accepted).mp ⟨_, missing⟩
    exact absurd (exists_learned_iff.mp ⟨_, fit_eq_ok_iff.mp fitted⟩ corpus member) unlearned
  | refused _ _ result => exact absurd ⟨_, result⟩ unfailing
  | trained learned result state =>
    cases fitted.symm.trans (fit_eq_ok_iff.mpr (learn_eq_ok accepted learned).1)
    exact ⟨result, state, train_trainedOn accepted result (congrArg Featurizer.state state)⟩

theorem fit_shuffled (accepted : config.validate = .ok ()) (shuffled : channels.Shuffled others)
    (fitted : (fit config normalizer channels).1 = .ok vectorizers) :
    (fit config normalizer others).1 = .ok vectorizers :=
  fit_eq_ok_iff.mpr ((fit_eq_ok_iff.mp fitted).shuffled accepted shuffled)

theorem Featurized.shuffled (shuffled : channels.Shuffled others)
    (featurized : Featurized config vectorizers channels before after) :
    Featurized config vectorizers others before after := by
  obtain ⟨text, intent, response, sameText, otherFields⟩ := featurized
  rw [longest_perm shuffled.messages] at text
  rw [longest_perm shuffled.intents] at intent
  rw [longest_perm shuffled.responses] at response
  exact ⟨text, intent, response, sameText, otherFields⟩

theorem own_unique (one : Own config vectorizer height text own) (two : Own config vectorizer height text again) :
    own = again := by
  obtain ⟨alone, counted, rfl⟩ := one
  obtain ⟨twin, countedAgain, rfl⟩ := two
  cases counted.symm.trans countedAgain
  rfl

theorem written_unique {field : String}
    (one : ∃ own, Own config vectorizer height text own ∧ after.features? field = some own)
    (two : ∃ own, Own config vectorizer height text own ∧ twin.features? field = some own) :
    after.get? field = twin.get? field := by
  obtain ⟨own, ofText, here⟩ := one
  obtain ⟨_, ofTextToo, there⟩ := two
  cases own_unique ofText ofTextToo
  rw [Message.features?_eq_some_iff.mp here, Message.features?_eq_some_iff.mp there]

-- Training leaves no choice in what becomes of a message.
theorem Featurized.unique (one : Featurized config vectorizers channels before after)
    (two : Featurized config vectorizers channels before twin) : after = twin := by
  refine Message.eq_of_get? (one.sameText.trans two.sameText.symm) fun name => ?_
  by_cases written : name ∈ [Field.textFeatures, Field.intentFeatures, Field.responseFeatures]
  · simp only [List.mem_cons, List.not_mem_nil, or_false] at written
    rcases written with rfl | rfl | rfl
    · obtain ⟨own, merged, ofText, combined, here⟩ := one.text
      obtain ⟨_, again, ofTextToo, combinedToo, there⟩ := two.text
      cases own_unique ofText ofTextToo
      cases combined.symm.trans combinedToo
      rw [Message.features?_eq_some_iff.mp here, Message.features?_eq_some_iff.mp there]
    · exact written_unique one.intent two.intent
    · exact written_unique one.response two.response
  · rw [one.otherFields name written, two.otherFields name written]

theorem Featurized.exists_map (config : Config) (vectorizers : Vectorizers) (channels : Channels) :
    ∃ featurized : Message → Message, ∀ befores afters,
      List.Forall₂ (Featurized config vectorizers channels) befores afters → afters = befores.map featurized ∧
        ∀ message ∈ befores, Featurized config vectorizers channels message (featurized message) :=
  exists_map_of_unique fun _ _ _ => Featurized.unique

theorem Featurized.hasIntent (featurized : Featurized config vectorizers channels before after) :
    after.hasIntent = before.hasIntent := by
  have kept := featurized.otherFields Field.intent (by decide)
  simp only [Message.hasIntent, Message.intent?, Message.text?, kept]

theorem forall₂_featurized {befores afters : List Message}
    (each : List.Forall₂ (TrainedOn config vectorizers channels) befores afters) :
    List.Forall₂ (Featurized config vectorizers channels) (befores.filter Message.hasIntent)
      (afters.filter Message.hasIntent) := by
  induction each with
  | nil => exact .nil
  | @cons before after _ _ here _ ih =>
    unfold TrainedOn at here
    cases intent : before.hasIntent with
    | false =>
      simp only [intent, Bool.false_eq_true, if_false] at here
      subst here
      rwa [List.filter_cons_of_neg (by simp [intent]), List.filter_cons_of_neg (by simp [intent])]
    | true =>
      simp only [intent, if_true] at here
      have still : after.hasIntent = true := here.hasIntent.trans intent
      rw [List.filter_cons_of_pos intent, List.filter_cons_of_pos still]
      exact .cons here ih

theorem train_unchanged {e : Error} (failed : (featurizer.train lemmatizer data).result = .error e) :
    (featurizer.train lemmatizer data).featurizer = featurizer := by
  cases (train_ends : TrainEnd featurizer lemmatizer data _) with
  | unlearned _ result => cases result.symm.trans failed
  | refused _ _ _ unchanged => exact unchanged
  | trained _ result => cases result.symm.trans failed

inductive EndsAlike (config : Config) (data other : TrainingData) (one two : TrainOutcome) : Prop
  | refused {e again : Error} (result : one.result = .error e) (same : two.result = .error again)
  | failed (result : one.result = .ok ()) (same : two.result = .ok ()) (state : one.featurizer.state = .failed)
  | ready {vectorizers : Vectorizers} {featurized : Message → Message} (result : one.result = .ok ())
      (same : two.result = .ok ()) (state : one.featurizer.state = .ready vectorizers)
      (each : ∀ message ∈ data.intentExamples,
        Featurized config vectorizers (Channels.ofExamples data.intentExamples) message (featurized message))
      (changed : one.data.intentExamples = data.intentExamples.map featurized)
      (changedToo : two.data.intentExamples = other.intentExamples.map featurized)

-- The order of the examples changes nothing, and those without an intent are of no account.
theorem train_reordered (path : Lived config featurizer) (lemmatizer : Option Lemmatizer)
    (shuffled : data.intentExamples.Perm other.intentExamples) :
    (featurizer.train lemmatizer data).featurizer = (featurizer.train lemmatizer other).featurizer ∧
      EndsAlike config data other (featurizer.train lemmatizer data) (featurizer.train lemmatizer other) := by
  have sound := (lived_lasting path).toSound
  have channels := Channels.shuffled_ofExamples shuffled
  cases fitted : (fit config (featurizer.trainingNormalizer lemmatizer) (Channels.ofExamples data.intentExamples)).1 with
  | error e =>
    cases fittedToo : (fit config (featurizer.trainingNormalizer lemmatizer)
        (Channels.ofExamples other.intentExamples)).1 with
    | ok vectorizers => cases fitted.symm.trans (fit_shuffled sound.accepted channels.symm fittedToo)
    | error again =>
      obtain ⟨result, state, _⟩ := train_unfit sound fitted
      obtain ⟨same, stateToo, _⟩ := train_unfit sound fittedToo
      exact ⟨state.trans stateToo.symm, .failed result same (congrArg Featurizer.state state)⟩
  | ok vectorizers =>
    have fittedToo := fit_shuffled sound.accepted channels fitted
    by_cases clashing : ∃ message ∈ data.intentExamples, Clashes config message
    · have clashingToo : ∃ message ∈ other.intentExamples, Clashes config message := by
        obtain ⟨message, member, clashes⟩ := clashing
        exact ⟨message, shuffled.mem_iff.mp member, clashes⟩
      have learnable := exists_learned_iff.mp ⟨_, fit_eq_ok_iff.mp fitted⟩
      have learnableToo := exists_learned_iff.mp ⟨_, fit_eq_ok_iff.mp fittedToo⟩
      obtain ⟨e, result⟩ := (train_fails_iff sound).mpr ⟨learnable, clashing⟩
      obtain ⟨again, same⟩ := (train_fails_iff sound).mpr ⟨learnableToo, clashingToo⟩
      exact ⟨(train_unchanged result).trans (train_unchanged same).symm, .refused result same⟩
    · have clearToo : ¬∃ message ∈ other.intentExamples, Clashes config message := by
        rintro ⟨message, member, clashes⟩
        exact clashing ⟨message, shuffled.mem_iff.mpr member, clashes⟩
      obtain ⟨result, state, each⟩ := train_clear sound fitted clashing
      obtain ⟨same, stateToo, eachToo⟩ := train_clear sound fittedToo clearToo
      obtain ⟨featurized, function⟩ := Featurized.exists_map config vectorizers (.ofExamples data.intentExamples)
      obtain ⟨changed, written⟩ := function _ _ (forall₂_featurized each)
      obtain ⟨changedToo, _⟩ :=
        function _ _ ((forall₂_featurized eachToo).imp fun _ _ => Featurized.shuffled channels.symm)
      exact ⟨state.trans stateToo.symm,
        .ready result same (congrArg Featurizer.state state) written changed changedToo⟩

-- Two sets of the same two labelled messages, each with another message among them.

def alsoLabelled : Message := (Message.ofText "bab").set Field.intent (.text "y")

def reordered : TrainingData := ⟨[.ofText "d", alsoLabelled, labelled]⟩

theorem exhausted_reordered :
    Lived letterConfig exhausted ∧
    (⟨[labelled, .ofText "c", alsoLabelled]⟩ : TrainingData).intentExamples.Perm reordered.intentExamples ∧
    EndsAlike letterConfig ⟨[labelled, .ofText "c", alsoLabelled]⟩ reordered
      (exhausted.train none ⟨[labelled, .ofText "c", alsoLabelled]⟩) (exhausted.train none reordered) ∧
    (exhausted.train none reordered).featurizer.state.isTrained = true := by
  have path : Lived letterConfig exhausted := .step (.made rfl) (.train none _)
  have shuffled : (⟨[labelled, .ofText "c", alsoLabelled]⟩ : TrainingData).intentExamples.Perm
      reordered.intentExamples := List.Perm.swap _ _ _
  exact ⟨path, shuffled, (train_reordered path none shuffled).2, by decide +kernel⟩

end Featurizer

end TextFeatures
