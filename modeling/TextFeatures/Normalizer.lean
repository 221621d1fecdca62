import TextFeatures.Unicode.Lowercase
import TextFeatures.Vocabulary

namespace TextFeatures

structure Normalizer where
  lowercase : Bool
  stripAccents : Option Text.AccentStripping
  oovMarker : Option String
  oovWords : List String
deriving DecidableEq

abbrev Lemmatizer := String → List String

def occursIn (part : List Char) : List Char → Bool
  | [] => part.isEmpty
  | c :: rest => part.isPrefixOf (c :: rest) || occursIn part rest

namespace Normalizer

def foldCase (lowercase : Bool) (text : String) : String :=
  if lowercase then Unicode.lowercase text else text

-- Words without a marker to stand for them are dropped.
def ofConfig (config : Config) : Normalizer × List Notice :=
  let fold := foldCase config.lowercase
  let marker := config.oovMarker.map fold
  if marker.isNone && !config.oovWords.isEmpty then
    (⟨config.lowercase, config.stripAccents, marker, []⟩, [.oovWordsIgnored config.oovWords])
  else
    (⟨config.lowercase, config.stripAccents, marker,
      sortedDistinct (config.oovWords.map fold)⟩, [])

def lemmatized (normalizer : Normalizer) (lemmas : Lemmatizer) : Normalizer :=
  { normalizer with
    oovWords := sortedDistinct
      ((normalizer.oovWords.flatMap lemmas).map (foldCase normalizer.lowercase)) }

-- Lowercases first and strips accents then, each only if it is asked for.
def preprocess (normalizer : Normalizer) (text : String) : String :=
  let folded := foldCase normalizer.lowercase text
  match normalizer.stripAccents with
  | none => folded
  | some mode => mode.strip folded

def substituteTraining (normalizer : Normalizer) (tokens : List Token) : List Token :=
  match normalizer.oovMarker with
  | none => tokens
  | some marker =>
    tokens.map fun token =>
      if normalizer.oovWords.contains token.text then { token with text := marker } else token

-- Afterwards, a marker in the vocabulary takes the place of all words that are not in it.
def substituteUnseen (normalizer : Normalizer) (vocabulary : Vocabulary) (tokens : List Token) :
    List Token :=
  match normalizer.oovMarker with
  | none => tokens
  | some marker =>
    if vocabulary.contains marker then
      tokens.map fun token =>
        if vocabulary.contains token.text then token else { token with text := marker }
    else tokens

def mentions (normalizer : Normalizer) (marker text : String) : Bool :=
  occursIn marker.toList text.toList ||
    (normalizer.lowercase && occursIn marker.toList (Unicode.lowercase text).toList)

-- With words configured for the marker, it can always be learned.
def markerPresent (normalizer : Normalizer) (corpus : List String) : Bool :=
  match normalizer.oovMarker with
  | none => true
  | some marker =>
    !normalizer.oovWords.isEmpty || corpus.any (normalizer.mentions marker)

def markerNotices (normalizer : Normalizer) (corpus : List String) (channel : String) :
    List Notice :=
  if normalizer.markerPresent corpus then []
  else [.markerAbsent (normalizer.oovMarker.getD "") channel]

end Normalizer

end TextFeatures
