import TextFeatures.Notice
import TextFeatures.Pattern
import TextFeatures.Text.Accents
import TextFeatures.Tokens.PatternTokens
import TextFeatures.Tokens.StopWords

namespace TextFeatures

inductive Analyzer where
  | word
  | char
  | charInWord
deriving DecidableEq, Repr

-- A double as it is kept. Arithmetic does not tell apart the many values that are no number, but their
-- binary forms differ.
structure Share where
  bits : UInt64
deriving DecidableEq, Repr

namespace Share

def ofFloat (x : Float) : Share := ⟨x.toBits⟩

def value (share : Share) : Float := Float.ofBits share.bits

end Share

inductive DocumentFrequency where
  | count (documents : Nat)
  | fraction (share : Share)
deriving DecidableEq, Repr

structure Config where
  sequence : Bool
  sharedVocabulary : Bool
  sparse : Bool
  analyzer : Analyzer
  tokenPattern : String
  stripAccents : Option Text.AccentStripping
  stopWords : Option StopWords
  leastFrequency : DocumentFrequency
  mostFrequency : DocumentFrequency
  leastNgram : Nat
  mostNgram : Nat
  featureLimit : Option Nat
  lowercase : Bool
  oovMarker : Option String
  oovWords : List String

def Analyzer.isWord (analyzer : Analyzer) : Bool := analyzer = .word

namespace DocumentFrequency

def share (x : Float) : DocumentFrequency := fraction (.ofFloat x)

def resolve (documents : Nat) : DocumentFrequency → Float
  | count n => Float.ofNat n
  | fraction share => share.value * Float.ofNat documents

def check (bound : Bound) : DocumentFrequency → Except ConfigError Unit
  | count _ => .ok ()
  | fraction share =>
    if 0 ≤ share.value && share.value ≤ 1 then .ok () else .error (.fraction bound share.value)

end DocumentFrequency

namespace Config

def default : Config where
  sequence := false
  sharedVocabulary := false
  sparse := false
  analyzer := .word
  tokenPattern := Pattern.defaultSource
  stripAccents := none
  stopWords := none
  leastFrequency := .count 1
  mostFrequency := .share 1
  leastNgram := 1
  mostNgram := 1
  featureLimit := none
  lowercase := true
  oovMarker := none
  oovWords := []

-- Only the word analyzer uses the token pattern, so only there it has to be one.
def checkPattern (config : Config) : Except ConfigError Unit :=
  if config.analyzer.isWord then
    match Pattern.compile config.tokenPattern with
    | .error cause => .error (.tokenPattern cause)
    | .ok _ => .ok ()
  else .ok ()

def checkSizes (config : Config) : Except ConfigError Unit :=
  if config.leastNgram = 0 then .error .zeroNgram
  else if config.mostNgram < config.leastNgram then
    .error (.ngramRange config.leastNgram config.mostNgram)
  else if config.featureLimit = some 0 then .error .zeroFeatures
  else .ok ()

-- Refuses a configuration that no vectorizer could work with; the first fault found is told.
def validate (config : Config) : Except ConfigError Unit := do
  config.checkSizes
  config.leastFrequency.check .least
  config.mostFrequency.check .most
  config.checkPattern

def notices (config : Config) : List Notice :=
  if config.analyzer.isWord then []
  else
    (if config.oovMarker.isSome then [.markerIgnored] else []) ++
    (if config.stopWords.isSome then [.stopWordsIgnored] else []) ++
    (if config.mostNgram = 1 then [.singleCharacters] else [])

end Config

end TextFeatures
