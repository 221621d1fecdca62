import TextFeatures.Featurizer.Training

namespace TextFeatures

-- The result says whether the test data were featurized.
structure ProcessOutcome where
  result : Except Error Bool
  featurizer : Featurizer
  message : Message
  testData : Option TrainingData
  notices : List Notice

namespace Featurizer

def messageFeatures (config : Config) (vectorizers : Vectorizers) (message : Message) :
    Except Error (Features Float) := do
  match ← features config vectorizers.forText [message.messageText] with
  | [] => .error (.features (.other "no features produced for message"))
  | computed :: _ => mergeText message computed

def setLabelFeatures (features : Features Float × Features Float) (message : Message) : Message :=
  (message.setFeatures Field.intentFeatures features.1).setFeatures
    Field.responseFeatures features.2

def featurizeTestData (config : Config) (vectorizers : Vectorizers) (data : TrainingData) :
    Except Error TrainingData := do
  let channels := Channels.ofExamples data.intentExamples
  let intents ← features config vectorizers.forLabel channels.intents
  let responses ← features config vectorizers.forLabel channels.responses
  return data.mapIntentExamples setLabelFeatures (intents.zip responses)

def testNotices (normalizer : Normalizer) (data : TrainingData) : List Notice :=
  let channels := Channels.ofExamples data.intentExamples
  .testDataFeaturized ::
    normalizer.markerNotices (channels.intents ++ channels.responses) "test"

def processMessage (featurizer : Featurizer) (vectorizers : Vectorizers) (message : Message) :
    Except Error Message := do
  let computed ← messageFeatures featurizer.config vectorizers message
  return message.setFeatures Field.textFeatures computed

-- The test data come first, and are kept when the message then fails.
def process (featurizer : Featurizer) (message : Message) (testData : Option TrainingData) :
    ProcessOutcome :=
  match featurizer.state, testData with
  | .ready vectorizers, some data =>
    let notices := testNotices featurizer.normalizer data
    match featurizeTestData featurizer.config vectorizers data with
    | .error e => { result := .error e, featurizer, message, testData, notices }
    | .ok data =>
      let featurizer := { featurizer with state := .testDataFeaturized vectorizers }
      match featurizer.processMessage vectorizers message with
      | .error e => { result := .error e, featurizer, message, testData := some data, notices }
      | .ok message => { result := .ok true, featurizer, message, testData := some data, notices }
  | state, _ =>
    match state.vectorizers? with
    | none => { result := .ok false, featurizer, message, testData, notices := [.untrained] }
    | some vectorizers =>
      match featurizer.processMessage vectorizers message with
      | .error e => { result := .error e, featurizer, message, testData, notices := [] }
      | .ok message => { result := .ok false, featurizer, message, testData, notices := [] }

end Featurizer

end TextFeatures
