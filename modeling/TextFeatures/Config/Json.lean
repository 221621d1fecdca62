import TextFeatures.Config
import TextFeatures.Json.Decode
import TextFeatures.Json.Reader
import TextFeatures.Json.Writer

namespace TextFeatures

def Analyzer.name : Analyzer → String
  | word => "word"
  | char => "char"
  | charInWord => "char_wb"

def Analyzer.ofJson? (value : Json) : Option Analyzer :=
  match value.choice? with
  | some "word" => some word
  | some "char" => some char
  | some "char_wb" => some charInWord
  | _ => none

def Text.AccentStripping.name : AccentStripping → String
  | ascii => "ascii"
  | unicode => "unicode"

def Text.AccentStripping.ofJson? (value : Json) : Option AccentStripping :=
  match value.choice? with
  | some "ascii" => some ascii
  | some "unicode" => some unicode
  | _ => none

-- A natural number is a count and any other number a fraction: `1` is one document, `1.0` is all.
def DocumentFrequency.toJson : DocumentFrequency → Json
  | count n => .natural n
  | fraction share => .real share.value

def DocumentFrequency.ofJson? (value : Json) : Option DocumentFrequency :=
  match value.number? with
  | none => none
  | some (.natural n) => some (count n)
  | some (.real x) => some (share x)

namespace Config

def toJson (config : Config) : Json := .record [
  ("sequence", .bool config.sequence),
  ("use_shared_vocab", .bool config.sharedVocabulary),
  ("sparse", .bool config.sparse),
  ("analyzer", .text config.analyzer.name),
  ("token_pattern", .text config.tokenPattern),
  ("strip_accents", .optional (.text ·.name) config.stripAccents),
  ("stop_words", .optional StopWords.toJson config.stopWords),
  ("min_df", config.leastFrequency.toJson),
  ("max_df", config.mostFrequency.toJson),
  ("min_ngram", .natural config.leastNgram),
  ("max_ngram", .natural config.mostNgram),
  ("max_features", .optional Json.natural config.featureLimit),
  ("lowercase", .bool config.lowercase),
  ("OOV_token", .optional Json.text config.oovMarker),
  ("OOV_words", .array (config.oovWords.map .text))]

def names : List String := [
  "sequence", "use_shared_vocab", "sparse", "analyzer", "token_pattern", "strip_accents",
  "stop_words", "min_df", "max_df", "min_ngram", "max_ngram", "max_features", "lowercase",
  "OOV_token", "OOV_words"]

-- An option that is not named keeps its default.
def ofJson? (value : Json) : Option Config :=
  match value.leadingFields? names with
  | some [sequence, shared, sparse, analyzer, pattern, accents, stopWords, leastFrequency,
      mostFrequency, leastNgram, mostNgram, limit, lowercase, marker, oovWords] => do
    return {
      sequence := ← Json.withDefault? Json.bool? default.sequence sequence
      sharedVocabulary := ← Json.withDefault? Json.bool? default.sharedVocabulary shared
      sparse := ← Json.withDefault? Json.bool? default.sparse sparse
      analyzer := ← Json.withDefault? Analyzer.ofJson? default.analyzer analyzer
      tokenPattern := ← Json.withDefault? Json.text? default.tokenPattern pattern
      stripAccents := ← Json.withDefault? (Json.optional? Text.AccentStripping.ofJson?)
        default.stripAccents accents
      stopWords := ← Json.withDefault? (Json.optional? StopWords.ofJson?) default.stopWords
        stopWords
      leastFrequency := ← Json.withDefault? DocumentFrequency.ofJson? default.leastFrequency
        leastFrequency
      mostFrequency := ← Json.withDefault? DocumentFrequency.ofJson? default.mostFrequency
        mostFrequency
      leastNgram := ← Json.withDefault? Json.natural? default.leastNgram leastNgram
      mostNgram := ← Json.withDefault? Json.natural? default.mostNgram mostNgram
      featureLimit := ← Json.withDefault? (Json.optional? Json.natural?) default.featureLimit limit
      lowercase := ← Json.withDefault? Json.bool? default.lowercase lowercase
      oovMarker := ← Json.withDefault? (Json.optional? Json.text?) default.oovMarker marker
      oovWords := ← Json.withDefault? (Json.list? Json.text?) default.oovWords oovWords }
  | _ => none

def render (config : Config) : String := config.toJson.render

-- Reads a configuration without asking whether it is one to work with.
def parse (text : String) : Except Error Config :=
  match (Json.parse? text).bind ofJson? with
  | none => .error .json
  | some config => .ok config

def ofText (text : String) : Except Error Config :=
  match parse text with
  | .error e => .error e
  | .ok config =>
    match config.validate with
    | .error cause => .error (.config cause)
    | .ok _ => .ok config

end Config

end TextFeatures
