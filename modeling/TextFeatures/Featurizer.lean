import TextFeatures.Vectorizer

namespace TextFeatures

-- What was learned: one vocabulary for all texts, or one for the texts of messages and another for
-- intents and responses.
inductive Vectorizers where
  | shared (vectorizer : Vectorizer)
  | separate (text label : Vectorizer)

namespace Vectorizers

def forText : Vectorizers → Vectorizer
  | shared vectorizer => vectorizer
  | separate vectorizer _ => vectorizer

def forLabel : Vectorizers → Vectorizer
  | shared vectorizer => vectorizer
  | separate _ vectorizer => vectorizer

end Vectorizers

-- Test data are featurized at most once after each training.
inductive State where
  | untrained
  | failed
  | ready (vectorizers : Vectorizers)
  | testDataFeaturized (vectorizers : Vectorizers)

namespace State

def vectorizers? : State → Option Vectorizers
  | untrained => none
  | failed => none
  | ready vectorizers => some vectorizers
  | testDataFeaturized vectorizers => some vectorizers

def isTrained (state : State) : Bool := state.vectorizers?.isSome

def isFailed : State → Bool
  | failed => true
  | _ => false

def isTestDataFeaturized : State → Bool
  | testDataFeaturized _ => true
  | _ => false

end State

structure Featurizer where
  config : Config
  normalizer : Normalizer
  state : State

namespace Featurizer

def ofConfig (config : Config) : Traced Featurizer :=
  match config.validate with
  | .error cause => .fail (.config cause)
  | .ok _ =>
    let (normalizer, notices) := Normalizer.ofConfig config
    (.ok ⟨config, normalizer, .untrained⟩, config.notices ++ notices)

end Featurizer

end TextFeatures
