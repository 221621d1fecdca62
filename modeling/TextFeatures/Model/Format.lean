import TextFeatures.Featurizer
import TextFeatures.Model.Bytes

namespace TextFeatures
open Bytes

namespace Analyzer

def write : Analyzer → Bytes
  | word => writeTag 0
  | char => writeTag 1
  | charInWord => writeTag 2

def read : ByteReader Analyzer := fun bytes => do
  match ← ByteReader.tag bytes with
  | (0, bytes) => return (word, bytes)
  | (1, bytes) => return (char, bytes)
  | (2, bytes) => return (charInWord, bytes)
  | _ => .error .unreadable

end Analyzer

namespace Text.AccentStripping

def write : AccentStripping → Bytes
  | ascii => writeTag 0
  | unicode => writeTag 1

def read : ByteReader AccentStripping := fun bytes => do
  match ← ByteReader.tag bytes with
  | (0, bytes) => return (ascii, bytes)
  | (1, bytes) => return (unicode, bytes)
  | _ => .error .unreadable

end Text.AccentStripping

namespace StopWords

-- A named list is written by the number of its name, and so far there is only one.
def write : StopWords → Bytes
  | english => writeTag 0 ++ writeTag 0
  | custom words => writeTag 1 ++ writeList writeText words

def read : ByteReader StopWords := fun bytes => do
  match ← ByteReader.tag bytes with
  | (0, bytes) =>
    match ← ByteReader.tag bytes with
    | (0, bytes) => return (english, bytes)
    | _ => .error .unreadable
  | (1, bytes) => (ByteReader.list ByteReader.text bytes).map fun read => (custom read.1, read.2)
  | _ => .error .unreadable

end StopWords

namespace Share

def write (share : Share) : Bytes := writeNatural share.bits.toNat

def read : ByteReader Share := fun bytes =>
  (ByteReader.natural bytes).map fun read => (⟨UInt64.ofNat read.1⟩, read.2)

end Share

namespace DocumentFrequency

def write : DocumentFrequency → Bytes
  | count n => writeTag 0 ++ writeNatural n
  | fraction share => writeTag 1 ++ share.write

def read : ByteReader DocumentFrequency := fun bytes => do
  match ← ByteReader.tag bytes with
  | (0, bytes) => (ByteReader.natural bytes).map fun read => (count read.1, read.2)
  | (1, bytes) => (Share.read bytes).map fun read => (fraction read.1, read.2)
  | _ => .error .unreadable

end DocumentFrequency

namespace Config

def write (config : Config) : Bytes :=
  writeBool config.sequence ++ writeBool config.sharedVocabulary ++ writeBool config.sparse ++
    config.analyzer.write ++ writeText config.tokenPattern ++
    writeOptional Text.AccentStripping.write config.stripAccents ++
    writeOptional StopWords.write config.stopWords ++
    config.leastFrequency.write ++ config.mostFrequency.write ++
    writeNatural config.leastNgram ++ writeNatural config.mostNgram ++
    writeOptional writeNatural config.featureLimit ++ writeBool config.lowercase ++
    writeOptional writeText config.oovMarker ++ writeList writeText config.oovWords

def read : ByteReader Config := fun bytes => do
  let (sequence, bytes) ← ByteReader.bool bytes
  let (sharedVocabulary, bytes) ← ByteReader.bool bytes
  let (sparse, bytes) ← ByteReader.bool bytes
  let (analyzer, bytes) ← Analyzer.read bytes
  let (tokenPattern, bytes) ← ByteReader.text bytes
  let (stripAccents, bytes) ← ByteReader.optional Text.AccentStripping.read bytes
  let (stopWords, bytes) ← ByteReader.optional StopWords.read bytes
  let (leastFrequency, bytes) ← DocumentFrequency.read bytes
  let (mostFrequency, bytes) ← DocumentFrequency.read bytes
  let (leastNgram, bytes) ← ByteReader.natural bytes
  let (mostNgram, bytes) ← ByteReader.natural bytes
  let (featureLimit, bytes) ← ByteReader.optional ByteReader.natural bytes
  let (lowercase, bytes) ← ByteReader.bool bytes
  let (oovMarker, bytes) ← ByteReader.optional ByteReader.text bytes
  let (oovWords, bytes) ← ByteReader.list ByteReader.text bytes
  return ({
    sequence, sharedVocabulary, sparse, analyzer, tokenPattern, stripAccents, stopWords,
    leastFrequency, mostFrequency, leastNgram, mostNgram, featureLimit, lowercase, oovMarker,
    oovWords }, bytes)

end Config

namespace Normalizer

def write (normalizer : Normalizer) : Bytes :=
  writeBool normalizer.lowercase ++
    writeOptional Text.AccentStripping.write normalizer.stripAccents ++
    writeOptional writeText normalizer.oovMarker ++ writeList writeText normalizer.oovWords

def read : ByteReader Normalizer := fun bytes => do
  let (lowercase, bytes) ← ByteReader.bool bytes
  let (stripAccents, bytes) ← ByteReader.optional Text.AccentStripping.read bytes
  let (oovMarker, bytes) ← ByteReader.optional ByteReader.text bytes
  let (oovWords, bytes) ← ByteReader.list ByteReader.text bytes
  return (⟨lowercase, stripAccents, oovMarker, sortedDistinct oovWords⟩, bytes)

end Normalizer

namespace Vocabulary

def writeEntry (entry : String × Nat) : Bytes := writeText entry.1 ++ writeNatural entry.2

def write (vocabulary : Vocabulary) : Bytes := writeList writeEntry vocabulary.indices.entries

-- Terms may come in any order. Of several entries for one term the last one counts.
def read : ByteReader Vocabulary := fun bytes =>
  (ByteReader.list (ByteReader.pair ByteReader.text ByteReader.natural) bytes).map fun read =>
    (⟨Dictionary.ofList read.1⟩, read.2)

end Vocabulary

-- The vocabularies of a trained featurizer. The rest of its vectorizers is made anew.
inductive Vocabularies where
  | shared (vocabulary : Vocabulary)
  | separate (text label : Vocabulary)

-- A state without what can be made anew.
inductive StoredState where
  | untrained
  | failed
  | ready (vocabularies : Vocabularies)
  | testDataFeaturized (vocabularies : Vocabularies)

namespace Vocabularies

def ofVectorizers : Vectorizers → Vocabularies
  | .shared vectorizer => shared (vectorizer.vocabulary.getD .empty)
  | .separate text label =>
    separate (text.vocabulary.getD .empty) (label.vocabulary.getD .empty)

def toVectorizers (config : Config) (normalizer : Normalizer) :
    Vocabularies → Except Error Vectorizers
  | shared vocabulary => do
    return .shared (← Vectorizer.withVocabulary config normalizer vocabulary)
  | separate text label => do
    return .separate (← Vectorizer.withVocabulary config normalizer text)
      (← Vectorizer.withVocabulary config normalizer label)

def write : Vocabularies → Bytes
  | shared vocabulary => writeTag 0 ++ vocabulary.write
  | separate text label => writeTag 1 ++ text.write ++ label.write

def read : ByteReader Vocabularies := fun bytes => do
  match ← ByteReader.tag bytes with
  | (0, bytes) => (Vocabulary.read bytes).map fun read => (shared read.1, read.2)
  | (1, bytes) => do
    let (text, bytes) ← Vocabulary.read bytes
    let (label, bytes) ← Vocabulary.read bytes
    return (separate text label, bytes)
  | _ => .error .unreadable

end Vocabularies

namespace StoredState

def ofState : State → StoredState
  | .untrained => untrained
  | .failed => failed
  | .ready vectorizers => ready (.ofVectorizers vectorizers)
  | .testDataFeaturized vectorizers => testDataFeaturized (.ofVectorizers vectorizers)

def toState (config : Config) (normalizer : Normalizer) : StoredState → Except Error State
  | untrained => .ok .untrained
  | failed => .ok .failed
  | ready vocabularies => (vocabularies.toVectorizers config normalizer).map .ready
  | testDataFeaturized vocabularies =>
    (vocabularies.toVectorizers config normalizer).map .testDataFeaturized

def write : StoredState → Bytes
  | untrained => writeTag 0
  | failed => writeTag 1
  | ready vocabularies => writeTag 2 ++ vocabularies.write
  | testDataFeaturized vocabularies => writeTag 3 ++ vocabularies.write

def read : ByteReader StoredState := fun bytes => do
  match ← ByteReader.tag bytes with
  | (0, bytes) => return (untrained, bytes)
  | (1, bytes) => return (failed, bytes)
  | (2, bytes) => (Vocabularies.read bytes).map fun read => (ready read.1, read.2)
  | (3, bytes) => (Vocabularies.read bytes).map fun read => (testDataFeaturized read.1, read.2)
  | _ => .error .unreadable

end StoredState

namespace Featurizer

def write (featurizer : Featurizer) : Bytes :=
  featurizer.config.write ++ featurizer.normalizer.write ++
    (StoredState.ofState featurizer.state).write

-- Reads a featurizer. What comes behind it is passed over. The configuration is taken as it is: only what
-- the vectorizers refuse is refused here.
def ofBytes (bytes : Bytes) : Except Damage Featurizer := do
  let (config, bytes) ← Config.read bytes
  let (normalizer, bytes) ← Normalizer.read bytes
  let (stored, _) ← StoredState.read bytes
  match stored.toState config normalizer with
  | .error _ => .error .unreadable
  | .ok state => .ok ⟨config, normalizer, state⟩

end Featurizer

end TextFeatures
