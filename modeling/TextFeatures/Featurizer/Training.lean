import TextFeatures.Featurizer.Counts
import TextFeatures.Message.Channels

namespace TextFeatures

structure ExampleFeatures where
  text : Features Float
  intent : Features Float
  response : Features Float

structure TrainOutcome where
  result : Except Error Unit
  featurizer : Featurizer
  data : TrainingData
  notices : List Notice

namespace Featurizer

-- Dense features of a text go behind those it has already; others take their place.
def mergeText (message : Message) : Features Float → Except Error (Features Float)
  | .dense values =>
    (Features.combine (message.features? Field.textFeatures) values).mapError .features
  | other => .ok other

-- Responses are long texts rather than labels. Word by word they are kept out of a vocabulary that they
-- would share with messages; text by text they are kept out of a vocabulary of labels.
def sharedCorpus (config : Config) (channels : Channels) : List String :=
  channels.messages ++ channels.intents ++ if config.sequence then [] else channels.responses

def labelCorpus (config : Config) (channels : Channels) : List String :=
  channels.intents ++ if config.sequence then channels.responses else []

def fit (config : Config) (normalizer : Normalizer) (channels : Channels) :
    Traced Vectorizers := do
  let fresh ← Traced.ofExcept (Vectorizer.ofConfig config normalizer)
  if config.sharedVocabulary then
    let shared ← fresh.fit (sharedCorpus config channels)
    return .shared shared
  else
    let text ← fresh.fit channels.messages
    let label ← fresh.fit (labelCorpus config channels)
    return .separate text label

def featuresOfChannels (config : Config) (vectorizers : Vectorizers) (channels : Channels) :
    Except Error (List ExampleFeatures) := do
  let texts ← features config vectorizers.forText channels.messages
  let intents ← features config vectorizers.forLabel channels.intents
  let responses ← features config vectorizers.forLabel channels.responses
  return (texts.zip (intents.zip responses)).map fun (text, intent, response) =>
    ⟨text, intent, response⟩

def mergeExample (pair : Message × ExampleFeatures) : Except Error ExampleFeatures := do
  return { pair.2 with text := ← mergeText pair.1 pair.2.text }

def setFeatures (features : ExampleFeatures) (message : Message) : Message :=
  ((message.setFeatures Field.textFeatures features.text).setFeatures
    Field.intentFeatures features.intent).setFeatures Field.responseFeatures features.response

def learn (config : Config) (normalizer : Normalizer) (examples : List Message) :
    Traced (Vectorizers × List ExampleFeatures) := do
  let channels := Channels.ofExamples examples
  let vectorizers ← fit config normalizer channels
  let computed ← Traced.ofExcept (featuresOfChannels config vectorizers channels)
  let merged ← Traced.ofExcept ((examples.zip computed).mapM mergeExample)
  return (vectorizers, merged)

def trainingNormalizer (featurizer : Featurizer) (lemmatizer : Option Lemmatizer) : Normalizer :=
  match lemmatizer with
  | none => featurizer.normalizer
  | some lemmas => featurizer.normalizer.lemmatized lemmas

def markerNotices (normalizer : Normalizer) (channels : Channels) : List Notice :=
  normalizer.markerNotices channels.messages "message" ++
    normalizer.markerNotices channels.intents "intent" ++
    normalizer.markerNotices channels.responses "response"

-- Examples without a usable vocabulary are no error of the caller: the featurizer is marked as failed.
-- Nothing at all changes on any other failure.
def train (featurizer : Featurizer) (lemmatizer : Option Lemmatizer) (data : TrainingData) :
    TrainOutcome :=
  let normalizer := featurizer.trainingNormalizer lemmatizer
  let examples := data.intentExamples
  let warnings := markerNotices normalizer (Channels.ofExamples examples)
  match learn featurizer.config normalizer examples with
  | (.error (.vocabulary cause), notices) => {
      result := .ok ()
      featurizer := { featurizer with state := .failed }
      data
      notices := warnings ++ notices ++ [.trainingFailed cause] }
  | (.error e, notices) => { result := .error e, featurizer, data, notices := warnings ++ notices }
  | (.ok (vectorizers, features), notices) => {
      result := .ok ()
      featurizer := { featurizer with normalizer, state := .ready vectorizers }
      data := data.mapIntentExamples setFeatures features
      notices := warnings ++ notices }

end Featurizer

end TextFeatures
