import TextFeatures.Featurizer.Training
import TextFeatures.Proofs.Featurizer.Counts

namespace TextFeatures

namespace Traced

variable {α β : Type}

@[simp] theorem fst_bind {first : Traced α} {next : α → Traced β} :
    (first >>= next).1 = first.1 >>= fun a => (next a).1 := by
  obtain ⟨result, notices⟩ := first
  cases result <;> rfl

@[simp] theorem fst_pure {a : α} : (pure a : Traced α).1 = .ok a := rfl
@[simp] theorem fst_ofExcept {result : Except Error α} : (ofExcept result).1 = result := rfl

end Traced

variable {config : Config} {normalizer : Normalizer} {corpus : List String} {channels : Channels}
  {vectorizer : Vectorizer} {vectorizers : Vectorizers} {e : Error}

theorem Vectorizer.fst_fit : (vectorizer.fit corpus).1 =
    (vectorizer.learn corpus).map fun vocabulary => { vectorizer with vocabulary := some vocabulary } := by
  unfold fit
  cases vectorizer.learn corpus <;> rfl

theorem Vectorizer.learns_iff : Learns config normalizer corpus vectorizer ↔
    ∃ fresh, ofConfig config normalizer = .ok fresh ∧ (fresh.fit corpus).1 = .ok vectorizer := by
  simp only [fst_fit, map_eq_ok_iff, Learns]
  constructor
  · rintro ⟨fresh, vocabulary, made, learned, rfl⟩
    exact ⟨fresh, made, vocabulary, learned, rfl⟩
  · rintro ⟨fresh, made, vocabulary, learned, rfl⟩
    exact ⟨fresh, vocabulary, made, learned, rfl⟩

inductive Vectorizers.Trained (config : Config) (normalizer : Normalizer) : Vectorizers → Prop
  | shared {vectorizer : Vectorizer} {vocabulary : Vocabulary} : config.sharedVocabulary = true →
      vectorizer.Trained config normalizer vocabulary → Trained config normalizer (.shared vectorizer)
  | separate {text label : Vectorizer} {ofText ofLabels : Vocabulary} : config.sharedVocabulary = false →
      text.Trained config normalizer ofText → label.Trained config normalizer ofLabels →
      Trained config normalizer (.separate text label)

theorem Vectorizers.Trained.forText (trained : vectorizers.Trained config normalizer) :
    ∃ vocabulary, vectorizers.forText.Trained config normalizer vocabulary := by
  cases trained with
  | shared _ both => exact ⟨_, both⟩
  | separate _ text _ => exact ⟨_, text⟩

theorem Vectorizers.Trained.forLabel (trained : vectorizers.Trained config normalizer) :
    ∃ vocabulary, vectorizers.forLabel.Trained config normalizer vocabulary := by
  cases trained with
  | shared _ both => exact ⟨_, both⟩
  | separate _ _ label => exact ⟨_, label⟩

namespace Featurizer

def corpora (config : Config) (channels : Channels) : List (List String) :=
  if config.sharedVocabulary then [sharedCorpus config channels]
  else [channels.messages, labelCorpus config channels]

-- What is learned from the channels of examples: a vocabulary of each corpus.
inductive Learned (config : Config) (normalizer : Normalizer) (channels : Channels) : Vectorizers → Prop
  | shared {vectorizer : Vectorizer} : config.sharedVocabulary = true →
      Vectorizer.Learns config normalizer (sharedCorpus config channels) vectorizer →
      Learned config normalizer channels (.shared vectorizer)
  | separate {text label : Vectorizer} : config.sharedVocabulary = false →
      Vectorizer.Learns config normalizer channels.messages text →
      Vectorizer.Learns config normalizer (labelCorpus config channels) label →
      Learned config normalizer channels (.separate text label)

theorem Learned.trained (learned : Learned config normalizer channels vectorizers) :
    vectorizers.Trained config normalizer := by
  cases learned with
  | shared both learns =>
    obtain ⟨vocabulary, trained, _⟩ := learns.trained
    exact .shared both trained
  | separate apart learnsText learnsLabel =>
    obtain ⟨ofText, trainedText, _⟩ := learnsText.trained
    obtain ⟨ofLabels, trainedLabel, _⟩ := learnsLabel.trained
    exact .separate apart trainedText trainedLabel

theorem exists_learned_iff : (∃ vectorizers, Learned config normalizer channels vectorizers) ↔
    ∀ corpus ∈ corpora config channels, Vectorizer.Learnable config normalizer corpus := by
  unfold corpora
  cases both : config.sharedVocabulary with
  | true =>
    simp only [if_true, List.forall_mem_singleton]
    constructor
    · rintro ⟨_, ⟨_, learns⟩ | ⟨apart, _, _⟩⟩
      · exact ⟨_, learns⟩
      · simp [both] at apart
    · rintro ⟨vectorizer, learns⟩
      exact ⟨.shared vectorizer, .shared both learns⟩
  | false =>
    simp only [Bool.false_eq_true, if_false, List.forall_mem_cons, List.not_mem_nil, false_implies, implies_true,
      and_true]
    constructor
    · rintro ⟨_, ⟨shared, _⟩ | ⟨_, learnsText, learnsLabel⟩⟩
      · simp [both] at shared
      · exact ⟨⟨_, learnsText⟩, ⟨_, learnsLabel⟩⟩
    · rintro ⟨⟨text, learnsText⟩, ⟨label, learnsLabel⟩⟩
      exact ⟨.separate text label, .separate both learnsText learnsLabel⟩

theorem fit_eq_ok_iff : (fit config normalizer channels).1 = .ok vectorizers ↔
    Learned config normalizer channels vectorizers := by
  unfold fit
  cases both : config.sharedVocabulary with
  | true =>
    simp only [Traced.fst_bind, Traced.fst_ofExcept, Traced.fst_pure, if_true, bind_eq_ok_iff, Except.ok.injEq]
    constructor
    · rintro ⟨fresh, made, shared, fitted, rfl⟩
      exact .shared both (Vectorizer.learns_iff.mpr ⟨fresh, made, fitted⟩)
    · rintro (⟨_, learns⟩ | ⟨apart, _, _⟩)
      · obtain ⟨fresh, made, fitted⟩ := Vectorizer.learns_iff.mp learns
        exact ⟨fresh, made, _, fitted, rfl⟩
      · simp [both] at apart
  | false =>
    simp only [Traced.fst_bind, Traced.fst_ofExcept, Traced.fst_pure, Bool.false_eq_true, if_false, bind_eq_ok_iff,
      Except.ok.injEq]
    constructor
    · rintro ⟨fresh, made, text, fittedText, label, fittedLabel, rfl⟩
      exact .separate both (Vectorizer.learns_iff.mpr ⟨fresh, made, fittedText⟩)
        (Vectorizer.learns_iff.mpr ⟨fresh, made, fittedLabel⟩)
    · rintro (⟨shared, _⟩ | ⟨_, learnsText, learnsLabel⟩)
      · simp [both] at shared
      · obtain ⟨fresh, made, fittedText⟩ := Vectorizer.learns_iff.mp learnsText
        obtain ⟨other, madeAgain, fittedLabel⟩ := Vectorizer.learns_iff.mp learnsLabel
        obtain rfl : fresh = other := Except.ok.inj (made.symm.trans madeAgain)
        exact ⟨fresh, made, _, fittedText, _, fittedLabel, rfl⟩

-- Whether vocabularies can be learned is the only thing that is left open by an accepted configuration.
theorem fit_error (accepted : config.validate = .ok ()) (failed : (fit config normalizer channels).1 = .error e) :
    ∃ cause, e = .vocabulary cause := by
  obtain ⟨fresh, made⟩ := Vectorizer.exists_ofConfig normalizer accepted
  have learning {corpus : List String} (unfit : (fresh.fit corpus).1 = .error e) : ∃ cause, e = .vocabulary cause := by
    rw [Vectorizer.fst_fit] at unfit
    cases learned : fresh.learn corpus with
    | error other =>
      simp only [learned, error_map, Except.error.injEq] at unfit
      exact Vectorizer.learn_error accepted made (unfit ▸ learned)
    | ok vocabulary => simp [learned] at unfit
  unfold fit at failed
  simp only [Traced.fst_bind, Traced.fst_ofExcept, made, ok_bind] at failed
  split at failed
  · rw [Traced.fst_bind] at failed
    rcases bind_eq_error_iff.mp failed with unfit | ⟨_, _, done⟩
    · exact learning unfit
    · cases done
  · simp only [Traced.fst_bind] at failed
    rcases bind_eq_error_iff.mp failed with unfit | ⟨_, _, later⟩
    · exact learning unfit
    · rcases bind_eq_error_iff.mp later with unfit | ⟨_, _, done⟩
      · exact learning unfit
      · cases done

-- The features of a message, from its own three texts and nothing else.
structure Computed (config : Config) (vectorizers : Vectorizers) (channels : Channels) (message : Message)
    (features : ExampleFeatures) : Prop where
  text : Own config vectorizers.forText (longest channels.messages) message.messageText features.text
  intent : Own config vectorizers.forLabel (longest channels.intents) message.intentText features.intent
  response : Own config vectorizers.forLabel (longest channels.responses) message.responseText features.response

-- The same once those of the text are brought together with what the message has already.
def Given (config : Config) (vectorizers : Vectorizers) (channels : Channels) (message : Message)
    (features : ExampleFeatures) : Prop :=
  ∃ computed, Computed config vectorizers channels message computed ∧ mergeExample (message, computed) = .ok features

theorem exists_featuresOfChannels (accepted : config.validate = .ok ())
    (trained : vectorizers.Trained config normalizer) (examples : List Message) :
    ∃ computed, featuresOfChannels config vectorizers (Channels.ofExamples examples) = .ok computed ∧
      List.Forall₂ (Computed config vectorizers (Channels.ofExamples examples)) examples computed := by
  obtain ⟨_, trainedText⟩ := trained.forText
  obtain ⟨_, trainedLabel⟩ := trained.forLabel
  obtain ⟨texts, ofTexts⟩ := exists_features accepted trainedText.serves (examples.map Message.messageText)
  obtain ⟨intents, ofIntents⟩ := exists_features accepted trainedLabel.serves (examples.map Message.intentText)
  obtain ⟨responses, ofResponses⟩ := exists_features accepted trainedLabel.serves (examples.map Message.responseText)
  refine ⟨_, by simp only [featuresOfChannels, Channels.ofExamples, ofTexts, ofIntents, ofResponses, ok_bind]; rfl, ?_⟩
  have ownTexts := List.forall₂_map_left_iff.mp ((features_eq_ok_iff trainedText).mp ofTexts)
  have ownIntents := List.forall₂_map_left_iff.mp ((features_eq_ok_iff trainedLabel).mp ofIntents)
  have ownResponses := List.forall₂_map_left_iff.mp ((features_eq_ok_iff trainedLabel).mp ofResponses)
  rw [List.forall₂_map_right_iff]
  refine (forall₂_zip ownTexts (forall₂_zip ownIntents ownResponses)).imp ?_
  rintro message ⟨text, intent, response⟩ ⟨ofText, ofIntent, ofResponse⟩
  exact ⟨ofText, ofIntent, ofResponse⟩

-- A message whose text features can take nothing behind them.
def Unextendable (message : Message) : Prop :=
  ∃ existing, message.features? Field.textFeatures = some existing ∧ existing.kind ≠ .dense

theorem mergeText_error {message : Message} {own : Features Float} (failed : mergeText message own = .error e) :
    ∃ cause, e = .features cause := by
  cases own with
  | dense values =>
    simp only [mergeText] at failed
    cases combined : Features.combine (message.features? Field.textFeatures) values with
    | error cause =>
      simp only [combined, error_mapError, Except.error.injEq] at failed
      exact ⟨cause, failed.symm⟩
    | ok features => simp [combined] at failed
  | sequence rows => cases failed
  | sparse rows => cases failed

theorem mergeText_fails_iff {message : Message} {own : Features Float} :
    (∃ e, mergeText message own = .error e) ↔ own.kind = .dense ∧ Unextendable message := by
  cases own with
  | dense values =>
    cases existing : message.features? Field.textFeatures with
    | none => simp [mergeText, Unextendable, existing, Features.combine]
    | some features =>
      cases features <;> simp [mergeText, Unextendable, existing, Features.combine, Features.kind]
  | sequence rows => simp [mergeText, Features.kind]
  | sparse rows => simp [mergeText, Features.kind]

theorem mergeExample_eq_ok_iff {message : Message} {computed merged : ExampleFeatures} :
    mergeExample (message, computed) = .ok merged ↔
      mergeText message computed.text = .ok merged.text ∧ merged.intent = computed.intent ∧
        merged.response = computed.response := by
  simp only [mergeExample, bind_eq_ok_iff, pure_eq_ok, Except.ok.injEq]
  constructor
  · rintro ⟨text, combined, rfl⟩
    exact ⟨combined, rfl, rfl⟩
  · obtain ⟨text, intent, response⟩ := merged
    rintro ⟨combined, rfl, rfl⟩
    exact ⟨text, combined, rfl⟩

theorem mergeExample_error {pair : Message × ExampleFeatures} (failed : mergeExample pair = .error e) :
    ∃ cause, e = .features cause := by
  rcases bind_eq_error_iff.mp failed with unmerged | ⟨_, _, done⟩
  · exact mergeText_error unmerged
  · cases done

variable {examples : List Message} {computed merged : List ExampleFeatures}

theorem forall₂_given (each : List.Forall₂ (Computed config vectorizers channels) examples computed)
    (combined : (examples.zip computed).mapM mergeExample = .ok merged) :
    List.Forall₂ (Given config vectorizers channels) examples merged := by
  rw [mapM_eq_ok_iff] at combined
  induction each generalizing merged with
  | nil =>
    cases combined
    exact .nil
  | cons own _ ih =>
    cases combined with
    | cons first later => exact .cons ⟨_, own, first⟩ (ih later)

theorem fst_learn : (learn config normalizer examples).1 = do
    let vectorizers ← (fit config normalizer (Channels.ofExamples examples)).1
    let computed ← featuresOfChannels config vectorizers (Channels.ofExamples examples)
    let merged ← (examples.zip computed).mapM mergeExample
    return (vectorizers, merged) := by
  simp only [learn, Traced.fst_bind, Traced.fst_ofExcept, Traced.fst_pure, pure_eq_ok]

theorem learn_eq_ok (accepted : config.validate = .ok ())
    (result : (learn config normalizer examples).1 = .ok (vectorizers, merged)) :
    Learned config normalizer (Channels.ofExamples examples) vectorizers ∧
      List.Forall₂ (Given config vectorizers (Channels.ofExamples examples)) examples merged := by
  simp only [fst_learn, bind_eq_ok_iff, pure_eq_ok, Except.ok.injEq, Prod.mk.injEq] at result
  obtain ⟨_, fitted, computed, featurized, _, combined, rfl, rfl⟩ := result
  have learned := fit_eq_ok_iff.mp fitted
  obtain ⟨_, same, each⟩ := exists_featuresOfChannels accepted learned.trained examples
  obtain rfl := Except.ok.inj (featurized.symm.trans same)
  exact ⟨learned, forall₂_given each combined⟩

theorem learn_vocabulary_error_iff (accepted : config.validate = .ok ()) :
    (∃ cause, (learn config normalizer examples).1 = .error (.vocabulary cause)) ↔
      ∃ corpus ∈ corpora config (Channels.ofExamples examples), ¬Vectorizer.Learnable config normalizer corpus := by
  constructor
  · rintro ⟨cause, failed⟩
    by_contra learnable
    obtain ⟨vectorizers, learned⟩ : ∃ vectorizers, Learned config normalizer (Channels.ofExamples examples) vectorizers :=
      exists_learned_iff.mpr fun corpus member => by_contra fun unlearned => learnable ⟨corpus, member, unlearned⟩
    obtain ⟨computed, featurized, _⟩ := exists_featuresOfChannels accepted learned.trained examples
    simp only [fst_learn, fit_eq_ok_iff.mpr learned, ok_bind, featurized] at failed
    rcases bind_eq_error_iff.mp failed with unmerged | ⟨_, _, done⟩
    · obtain ⟨pair, _, unmerged⟩ := exists_of_mapM_eq_error unmerged
      obtain ⟨other, different⟩ := mergeExample_error unmerged
      cases different
    · cases done
  · rintro ⟨corpus, member, unlearned⟩
    cases fitted : (fit config normalizer (Channels.ofExamples examples)).1 with
    | error e =>
      obtain ⟨cause, rfl⟩ := fit_error accepted fitted
      exact ⟨cause, by rw [fst_learn, fitted]; rfl⟩
    | ok vectorizers =>
      exact absurd (exists_learned_iff.mp ⟨vectorizers, fit_eq_ok_iff.mp fitted⟩ corpus member) unlearned

end Featurizer

end TextFeatures
