import TextFeatures.Proofs.Checked.Counts
import TextFeatures.Proofs.Featurizer.Processing

namespace TextFeatures.Checked
open Featurizer (sharedCorpus labelCorpus mergeExample mergeText setLabelFeatures)

def fitted (fresh : Vectorizer) (corpus : List String) : Except Stop Vectorizer := do
  let vocabulary ← vocabularyOf fresh corpus
  return { fresh with vocabulary := some vocabulary }

def fit (config : Config) (normalizer : Normalizer) (channels : Channels) : Except Stop Vectorizers := do
  let fresh ← told (Vectorizer.ofConfig config normalizer)
  if config.sharedVocabulary then
    let shared ← fitted fresh (sharedCorpus config channels)
    return .shared shared
  else
    let text ← fitted fresh channels.messages
    let label ← fitted fresh (labelCorpus config channels)
    return .separate text label

def featuresOfChannels (config : Config) (vectorizers : Vectorizers) (channels : Channels) :
    Except Stop (List ExampleFeatures) := do
  let texts ← features config vectorizers.forText channels.messages
  let intents ← features config vectorizers.forLabel channels.intents
  let responses ← features config vectorizers.forLabel channels.responses
  return (texts.zip (intents.zip responses)).map fun (text, intent, response) => ⟨text, intent, response⟩

def learn (config : Config) (normalizer : Normalizer) (examples : List Message) :
    Except Stop (Vectorizers × List ExampleFeatures) := do
  let channels := Channels.ofExamples examples
  let vectorizers ← fit config normalizer channels
  let computed ← featuresOfChannels config vectorizers channels
  let merged ← told ((examples.zip computed).mapM mergeExample)
  return (vectorizers, merged)

def messageFeatures (config : Config) (vectorizers : Vectorizers) (message : Message) :
    Except Stop (Features Float) := do
  match ← features config vectorizers.forText [message.messageText] with
  | [] => .error (.refused (.features (.other "no features produced for message")))
  | computed :: _ => told (mergeText message computed)

def featurizeTestData (config : Config) (vectorizers : Vectorizers) (data : TrainingData) :
    Except Stop TrainingData := do
  let channels := Channels.ofExamples data.intentExamples
  let intents ← features config vectorizers.forLabel channels.intents
  let responses ← features config vectorizers.forLabel channels.responses
  return data.mapIntentExamples setLabelFeatures (intents.zip responses)

variable {config : Config} {normalizer : Normalizer} {fresh : Vectorizer} {vectorizers : Vectorizers}
  {corpus : List String} {channels : Channels} {α β : Type}

theorem told_bind {first : Except Error α} {next : α → Except Error β} :
    told (first >>= next) = told first >>= fun a => told (next a) := by
  cases first <;> rfl

theorem fitted_eq (accepted : config.validate = .ok ()) (made : Vectorizer.ofConfig config normalizer = .ok fresh) :
    fitted fresh corpus = told (fresh.fit corpus).1 := by
  rw [fitted, vocabularyOf_eq accepted (Vectorizer.analysis_ofConfig made), Vectorizer.fst_fit]
  cases fresh.learn corpus <;> rfl

theorem fit_eq (accepted : config.validate = .ok ()) :
    fit config normalizer channels = told (Featurizer.fit config normalizer channels).1 := by
  obtain ⟨fresh, made⟩ := Vectorizer.exists_ofConfig normalizer accepted
  unfold fit Featurizer.fit
  simp only [Traced.fst_bind, Traced.fst_ofExcept, made, told_ok, ok_bind, fitted_eq accepted made]
  split <;> simp only [Traced.fst_bind, Traced.fst_pure, told_bind] <;> rfl

theorem featuresOfChannels_eq (accepted : config.validate = .ok ()) (trained : vectorizers.Trained config normalizer) :
    featuresOfChannels config vectorizers channels = told (Featurizer.featuresOfChannels config vectorizers channels) := by
  obtain ⟨_, trainedText⟩ := trained.forText
  obtain ⟨_, trainedLabel⟩ := trained.forLabel
  simp only [featuresOfChannels, features_eq accepted trainedText.serves, features_eq accepted trainedLabel.serves,
    Featurizer.featuresOfChannels, told_bind]
  rfl

-- Training goes through without a breach, whatever it comes to.
theorem learn_eq (accepted : config.validate = .ok ()) (examples : List Message) :
    learn config normalizer examples = told (Featurizer.learn config normalizer examples).1 := by
  rw [learn, Featurizer.fst_learn, fit_eq accepted, told_bind]
  cases learned : (Featurizer.fit config normalizer (Channels.ofExamples examples)).1 with
  | error e => rfl
  | ok vectorizers =>
    have trained := (Featurizer.fit_eq_ok_iff.mp learned).trained
    rw [told_ok, ok_bind, ok_bind, featuresOfChannels_eq accepted trained, told_bind]
    simp only [told_bind]
    rfl

theorem messageFeatures_of_serves {vocabulary : Vocabulary} (accepted : config.validate = .ok ())
    (serves : vectorizers.forText.Serves config normalizer vocabulary) (message : Message) :
    messageFeatures config vectorizers message = told (Featurizer.messageFeatures config vectorizers message) := by
  rw [messageFeatures, features_eq accepted serves, Featurizer.messageFeatures, told_bind]
  refine congrArg _ (funext fun computed => ?_)
  cases computed <;> rfl

theorem messageFeatures_eq (accepted : config.validate = .ok ()) (trained : vectorizers.Trained config normalizer)
    (message : Message) :
    messageFeatures config vectorizers message = told (Featurizer.messageFeatures config vectorizers message) := by
  obtain ⟨_, trainedText⟩ := trained.forText
  exact messageFeatures_of_serves accepted trainedText.serves message

theorem featurizeTestData_of_serves {vocabulary : Vocabulary} (accepted : config.validate = .ok ())
    (serves : vectorizers.forLabel.Serves config normalizer vocabulary) (data : TrainingData) :
    featurizeTestData config vectorizers data = told (Featurizer.featurizeTestData config vectorizers data) := by
  simp only [featurizeTestData, features_eq accepted serves, Featurizer.featurizeTestData, told_bind]
  rfl

theorem featurizeTestData_eq (accepted : config.validate = .ok ()) (trained : vectorizers.Trained config normalizer)
    (data : TrainingData) :
    featurizeTestData config vectorizers data = told (Featurizer.featurizeTestData config vectorizers data) := by
  obtain ⟨_, trainedLabel⟩ := trained.forLabel
  exact featurizeTestData_of_serves accepted trainedLabel.serves data

end TextFeatures.Checked
