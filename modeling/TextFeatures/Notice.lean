import TextFeatures.Error
import TextFeatures.Text.Quoted

namespace TextFeatures

inductive Severity where
  | error
  | warning
  | info
  | debug
deriving DecidableEq, Repr

inductive Notice where
  | markerIgnored
  | stopWordsIgnored
  | singleCharacters
  | oovWordsIgnored (words : List String)
  | markerAbsent (marker channel : String)
  | fitted (analyzer : String) (terms : Nat)
  | trainingFailed (cause : VocabularyError)
  | untrained
  | testDataFeaturized
  | modelUnnamed
  | modelUnreadable (file : String)

namespace Notice

def severity : Notice → Severity
  | markerIgnored | stopWordsIgnored | singleCharacters => .warning
  | oovWordsIgnored _ | markerAbsent _ _ => .warning
  | modelUnnamed | modelUnreadable _ => .warning
  | fitted _ _ => .debug
  | trainingFailed _ | untrained => .error
  | testDataFeaturized => .info

def text : Notice → String
  | markerIgnored => "analyzer is not 'word', so OOV_token is ignored"
  | stopWordsIgnored => "analyzer is not 'word', so stop_words are ignored"
  | singleCharacters =>
    "analyzer is not 'word' and max_ngram is 1, so features are single characters"
  | oovWordsIgnored words =>
    "OOV_words " ++ Text.quotedList words ++
      " were given, but OOV_token was not; OOV words are ignored"
  | markerAbsent marker channel =>
    "OOV_token='" ++ marker ++ "' was given, but it is not present in the " ++ channel ++
      " training data; all unseen words will be ignored during prediction"
  | fitted analyzer terms =>
    analyzer ++ " vocabulary fitted with " ++ toString terms ++ " terms"
  | trainingFailed cause => "count vectors featurizer could not be trained: " ++ cause.text
  | untrained =>
    "there is no trained count vectorizer: the component is either not trained " ++
      "or didn't receive enough training data"
  | testDataFeaturized =>
    "adding bag-of-words features to the intents of the test set for the first time"
  | modelUnnamed => "failed to load featurizer, maybe path doesn't exist; starting untrained"
  | modelUnreadable file => "failed to load featurizer from " ++ file ++ "; starting untrained"

end Notice

-- A computation that may fail, and what it told up to its end or its failure.
def Traced (α : Type) : Type := Except Error α × List Notice

namespace Traced

def succeed (a : α) : Traced α := (.ok a, [])

def fail (error : Error) : Traced α := (.error error, [])

def tell (notice : Notice) : Traced Unit := (.ok (), [notice])

def ofExcept (result : Except Error α) : Traced α := (result, [])

def andThen (first : Traced α) (next : α → Traced β) : Traced β :=
  match first with
  | (.error e, notices) => (.error e, notices)
  | (.ok a, notices) => ((next a).1, notices ++ (next a).2)

instance : Monad Traced where
  pure := succeed
  bind := andThen

end Traced

end TextFeatures
