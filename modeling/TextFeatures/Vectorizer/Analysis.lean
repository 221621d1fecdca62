import TextFeatures.Normalizer
import TextFeatures.Text.Numbers
import TextFeatures.Tokens.Grams
import TextFeatures.Tokens.WordGrams

namespace TextFeatures

inductive Analysis where
  | words (pattern : Pattern) (stopWords : Option StopWords) (least most : Nat)
  | grams (sizes : GramSizes)
deriving DecidableEq

namespace Analysis

def ofConfig (config : Config) : Except AnalysisError Analysis :=
  match config.analyzer with
  | .word =>
    match Pattern.compile config.tokenPattern with
    | .error cause => .error cause
    | .ok pattern => .ok (words pattern config.stopWords config.leastNgram config.mostNgram)
  | .char => (GramSizes.ofRange config.leastNgram config.mostNgram false).map grams
  | .charInWord => (GramSizes.ofRange config.leastNgram config.mostNgram true).map grams

def analyzer : Analysis → Analyzer
  | words _ _ _ _ => .word
  | grams sizes => if sizes.insideWords then .charInWord else .char

def wordTokens (normalizer : Normalizer) (pattern : Pattern) (document : String) : List Token :=
  pattern.tokens (Text.collapseNumbers (normalizer.preprocess document))

def substitute (normalizer : Normalizer) (vocabulary : Option Vocabulary) (tokens : List Token) :
    List Token :=
  match vocabulary with
  | none => normalizer.substituteTraining tokens
  | some vocabulary => normalizer.substituteUnseen vocabulary tokens

def dropStopWords (stopWords : Option StopWords) (tokens : List Token) : List Token :=
  match stopWords with
  | none => tokens
  | some stopWords => stopWords.filter tokens

-- Stop words are looked for after substitution: a marker may be one, and then it is dropped too.
def terms (normalizer : Normalizer) (vocabulary : Option Vocabulary) (document : String) :
    Analysis → Except Fault (List String)
  | words pattern stopWords least most =>
    let tokens := substitute normalizer vocabulary (wordTokens normalizer pattern document)
    wordGrams least most (textsOf (dropStopWords stopWords tokens))
  | grams sizes => .ok (textsOf (sizes.tokens (normalizer.preprocess document)))

end Analysis

end TextFeatures
