import TextFeatures.Decimal.Shortest

namespace TextFeatures

inductive AnalysisError where
  | invalidPattern
  | zeroGram
  | gramRange (least most : Nat)
  | other (text : String)

inductive Bound where
  | least
  | most
deriving DecidableEq, Repr

inductive ConfigError where
  | zeroNgram
  | ngramRange (least most : Nat)
  | zeroFeatures
  | fraction (bound : Bound) (value : Float)
  | tokenPattern (cause : AnalysisError)
  | other (text : String)

inductive VocabularyError where
  | empty
  | pruned
  | inconsistent (least most : Float)

inductive FeatureKind where
  | dense
  | sequence
  | sparse
deriving DecidableEq, Repr

inductive FeatureError where
  | unfitted
  | column (index columns : Nat)
  | combination (existing : FeatureKind)
  | other (text : String)

-- A fault is a breach of what a caller has to guarantee. No message reports it.
inductive Fault where
  | emptyWindow
  | rowOutsideData
  | endlessText
deriving DecidableEq, Repr

inductive Error where
  | file
  | json
  | analysis (cause : AnalysisError)
  | config (cause : ConfigError)
  | vocabulary (cause : VocabularyError)
  | features (cause : FeatureError)
  | serialization (text : String)
  | other (text : String)
  | fault (cause : Fault)

def AnalysisError.message : AnalysisError → String
  | invalidPattern => "Analysis error: Invalid regex pattern"
  | zeroGram => "Analysis error: min_gram must be at least 1"
  | gramRange least most =>
    "Analysis error: max_gram (" ++ toString most ++ ") must be >= min_gram (" ++ toString least ++
      ")"
  | other text => "Analysis error: " ++ text

def Bound.name : Bound → String
  | least => "min_df"
  | most => "max_df"

def ConfigError.message : ConfigError → String
  | zeroNgram => "Configuration error: min_ngram must be at least 1"
  | ngramRange least most =>
    "Configuration error: max_ngram (" ++ toString most ++ ") must be >= min_ngram (" ++
      toString least ++ ")"
  | zeroFeatures => "Configuration error: max_features must be positive"
  | fraction bound value =>
    "Configuration error: " ++ bound.name ++
      " as a fraction must be within [0.0, 1.0], got " ++ Decimal.plain value
  | tokenPattern cause => "Configuration error: " ++ cause.message
  | other text => "Configuration error: " ++ text

-- The cause alone, as it is logged when training fails.
def VocabularyError.text : VocabularyError → String
  | empty => "empty vocabulary; perhaps the documents only contain stop words"
  | pruned => "after pruning, no terms remain; try a lower min_df or a higher max_df"
  | inconsistent least most =>
    "max_df corresponds to " ++ Decimal.plain most ++ " documents, fewer than min_df (" ++
      Decimal.plain least ++ ")"

def FeatureKind.name : FeatureKind → String
  | dense => "dense"
  | sequence => "sequence"
  | sparse => "sparse"

def FeatureError.message : FeatureError → String
  | unfitted => "Featurization error: vectorizer is not fitted"
  | column index columns =>
    "Featurization error: column " ++ toString index ++ " out of bounds for " ++
      toString columns ++ " columns"
  | combination existing =>
    "Featurization error: cannot combine dense features with existing " ++ existing.name ++
      " features"
  | other text => "Featurization error: " ++ text

-- The text that a user sees. Errors of files and of JSON texts are told by their kind alone.
def Error.message? : Error → Option String
  | file => none
  | json => none
  | analysis cause => some cause.message
  | config cause => some cause.message
  | vocabulary cause => some ("Vocabulary error: " ++ cause.text)
  | features cause => some cause.message
  | serialization text => some ("Serialization error: " ++ text)
  | other text => some ("Error: " ++ text)
  | fault _ => none

end TextFeatures
