import TextFeatures.Model.Format
import TextFeatures.Proofs.Dictionary
import TextFeatures.Proofs.Model.Bytes

namespace TextFeatures
open Bytes ByteReader

-- What a memory with addresses of eight bytes has room for. Numbers are not bounded otherwise, so what is
-- kept in bytes has to be known to fit.

def TextFits (text : String) : Prop := text.utf8ByteSize < textLimit

instance (text : String) : Decidable (TextFits text) := inferInstanceAs (Decidable (_ < _))

structure TextsFit (texts : List String) : Prop where
  count : texts.length < wordLimit
  each : ∀ text ∈ texts, TextFits text

theorem texts_write {texts : List String} (fit : TextsFit texts) :
    Spells (list ByteReader.text) (writeList writeText texts) texts :=
  list_write fit.count fun text member => text_write (fit.each text member)

namespace Analyzer

theorem read_write (analyzer : Analyzer) : Spells Analyzer.read analyzer.write analyzer := by
  intro behind
  cases analyzer with
  | word => simp only [write, Analyzer.read, tag_write (by decide : 0 < 256 ^ tagSize) _, ok_bind, pure_eq_ok]
  | char => simp only [write, Analyzer.read, tag_write (by decide : 1 < 256 ^ tagSize) _, ok_bind, pure_eq_ok]
  | charInWord => simp only [write, Analyzer.read, tag_write (by decide : 2 < 256 ^ tagSize) _, ok_bind, pure_eq_ok]

end Analyzer

namespace Text.AccentStripping

theorem read_write (mode : AccentStripping) : Spells AccentStripping.read mode.write mode := by
  intro behind
  cases mode with
  | ascii => simp only [write, AccentStripping.read, tag_write (by decide : 0 < 256 ^ tagSize) _, ok_bind, pure_eq_ok]
  | unicode => simp only [write, AccentStripping.read, tag_write (by decide : 1 < 256 ^ tagSize) _, ok_bind, pure_eq_ok]

end Text.AccentStripping

namespace StopWords

def Fits : StopWords → Prop
  | english => True
  | custom words => TextsFit words

theorem read_write {stopWords : StopWords} (fits : stopWords.Fits) : Spells StopWords.read stopWords.write stopWords := by
  intro behind
  cases stopWords with
  | english =>
    have zero : 0 < 256 ^ tagSize := by decide
    simp only [write, List.append_assoc, StopWords.read, tag_write zero _, ok_bind, pure_eq_ok]
  | custom words =>
    have one : 1 < 256 ^ tagSize := by decide
    simp only [write, List.append_assoc, StopWords.read, tag_write one _, ok_bind, texts_write fits _, ok_map]

end StopWords

namespace DocumentFrequency

def Fits : DocumentFrequency → Prop
  | count documents => documents < wordLimit
  | fraction _ => True

theorem read_share (share : Share) : Spells Share.read share.write share := by
  intro behind
  have small : share.bits.toNat < wordLimit := share.bits.toNat_lt
  rw [Share.read, Share.write, natural_write small, ok_map, UInt64.ofNat_toNat]

theorem read_write {bound : DocumentFrequency} (fits : bound.Fits) :
    Spells DocumentFrequency.read bound.write bound := by
  intro behind
  cases bound with
  | count documents =>
    have zero : 0 < 256 ^ tagSize := by decide
    simp only [write, List.append_assoc, DocumentFrequency.read, tag_write zero _, ok_bind, natural_write fits _, ok_map]
  | fraction share =>
    have one : 1 < 256 ^ tagSize := by decide
    simp only [write, List.append_assoc, DocumentFrequency.read, tag_write one _, ok_bind, read_share share _, ok_map]

end DocumentFrequency

namespace Config

structure Fits (config : Config) : Prop where
  tokenPattern : TextFits config.tokenPattern
  stopWords : ∀ stopWords ∈ config.stopWords, stopWords.Fits
  leastFrequency : config.leastFrequency.Fits
  mostFrequency : config.mostFrequency.Fits
  leastNgram : config.leastNgram < wordLimit
  mostNgram : config.mostNgram < wordLimit
  featureLimit : ∀ limit ∈ config.featureLimit, limit < wordLimit
  oovMarker : ∀ marker ∈ config.oovMarker, TextFits marker
  oovWords : TextsFit config.oovWords

theorem read_write {config : Config} (fits : config.Fits) : Spells Config.read config.write config := by
  intro behind
  simp only [write, List.append_assoc, Config.read, bool_write _ _, ok_bind, pure_eq_ok,
    config.analyzer.read_write _, text_write fits.tokenPattern _,
    optional_write (fun mode (_ : mode ∈ config.stripAccents) => mode.read_write) _,
    optional_write (fun stopWords member => StopWords.read_write (fits.stopWords stopWords member)) _,
    DocumentFrequency.read_write fits.leastFrequency _, DocumentFrequency.read_write fits.mostFrequency _,
    natural_write fits.leastNgram _, natural_write fits.mostNgram _,
    optional_write (fun limit member => natural_write (fits.featureLimit limit member)) _,
    optional_write (fun marker member => text_write (fits.oovMarker marker member)) _, texts_write fits.oovWords _]

end Config

namespace Normalizer

structure Fits (normalizer : Normalizer) : Prop where
  oovMarker : ∀ marker ∈ normalizer.oovMarker, TextFits marker
  oovWords : TextsFit normalizer.oovWords

def Ordered (normalizer : Normalizer) : Prop := normalizer.oovWords.Pairwise (· < ·)

theorem read_write {normalizer : Normalizer} (fits : normalizer.Fits) (ordered : normalizer.Ordered) :
    Spells Normalizer.read normalizer.write normalizer := by
  intro behind
  simp only [write, List.append_assoc, Normalizer.read, bool_write _ _, ok_bind, pure_eq_ok,
    optional_write (fun mode (_ : mode ∈ normalizer.stripAccents) => mode.read_write) _,
    optional_write (fun marker member => text_write (fits.oovMarker marker member)) _, texts_write fits.oovWords _,
    sortedDistinct_of_ordered ordered]

end Normalizer

namespace Vocabulary

structure Fits (vocabulary : Vocabulary) : Prop where
  count : vocabulary.size < wordLimit
  each : ∀ entry ∈ vocabulary.indices.entries, TextFits entry.1 ∧ entry.2 < wordLimit

-- The terms of a vocabulary may be written in any order.
def WrittenAs (vocabulary : Vocabulary) (bytes : Bytes) : Prop :=
  ∃ entries, entries.Perm vocabulary.indices.entries ∧ bytes = writeList writeEntry entries

theorem writtenAs_write (vocabulary : Vocabulary) : vocabulary.WrittenAs vocabulary.write := ⟨_, .refl _, rfl⟩

theorem read_written {vocabulary : Vocabulary} {bytes : Bytes} (fits : vocabulary.Fits)
    (written : vocabulary.WrittenAs bytes) : Spells Vocabulary.read bytes vocabulary := by
  intro behind
  obtain ⟨entries, shuffled, rfl⟩ := written
  have short : entries.length < wordLimit := shuffled.length_eq ▸ fits.count
  have each : ∀ entry ∈ entries, Spells (pair ByteReader.text natural) (writeEntry entry) entry := by
    intro entry member
    obtain ⟨term, column⟩ := fits.each entry (shuffled.mem_iff.mp member)
    exact pair_write (text_write term) (natural_write column)
  rw [Vocabulary.read, list_write short each, ok_map, Dictionary.ofList_of_perm shuffled]

end Vocabulary

namespace Vocabularies

def toList : Vocabularies → List Vocabulary
  | shared vocabulary => [vocabulary]
  | separate text label => [text, label]

inductive WrittenAs : Vocabularies → Bytes → Prop
  | shared {vocabulary : Vocabulary} {bytes : Bytes} : vocabulary.WrittenAs bytes →
      WrittenAs (.shared vocabulary) (writeTag 0 ++ bytes)
  | separate {text label : Vocabulary} {ofText ofLabels : Bytes} : text.WrittenAs ofText → label.WrittenAs ofLabels →
      WrittenAs (.separate text label) (writeTag 1 ++ ofText ++ ofLabels)

theorem writtenAs_write (vocabularies : Vocabularies) : vocabularies.WrittenAs vocabularies.write := by
  cases vocabularies with
  | shared vocabulary => exact .shared vocabulary.writtenAs_write
  | separate text label => exact .separate text.writtenAs_write label.writtenAs_write

theorem read_written {vocabularies : Vocabularies} {bytes : Bytes}
    (fit : ∀ vocabulary ∈ vocabularies.toList, vocabulary.Fits) (written : vocabularies.WrittenAs bytes) :
    Spells Vocabularies.read bytes vocabularies := by
  intro behind
  cases written with
  | shared both =>
    have zero : 0 < 256 ^ tagSize := by decide
    have spelled := Vocabulary.read_written (fit _ List.mem_cons_self) both
    simp only [List.append_assoc, Vocabularies.read, tag_write zero _, ok_bind, spelled _, ok_map]
  | separate text label =>
    have one : 1 < 256 ^ tagSize := by decide
    have ofText := Vocabulary.read_written (fit _ List.mem_cons_self) text
    have ofLabels := Vocabulary.read_written (fit _ (List.mem_cons_of_mem _ List.mem_cons_self)) label
    simp only [List.append_assoc, Vocabularies.read, tag_write one _, ok_bind, ofText _, ofLabels _, pure_eq_ok]

end Vocabularies

namespace StoredState

def vocabularies : StoredState → List Vocabulary
  | untrained => []
  | failed => []
  | ready vocabularies => vocabularies.toList
  | testDataFeaturized vocabularies => vocabularies.toList

inductive WrittenAs : StoredState → Bytes → Prop
  | untrained : WrittenAs untrained (writeTag 0)
  | failed : WrittenAs failed (writeTag 1)
  | ready {vocabularies : Vocabularies} {bytes : Bytes} : vocabularies.WrittenAs bytes →
      WrittenAs (.ready vocabularies) (writeTag 2 ++ bytes)
  | testDataFeaturized {vocabularies : Vocabularies} {bytes : Bytes} : vocabularies.WrittenAs bytes →
      WrittenAs (.testDataFeaturized vocabularies) (writeTag 3 ++ bytes)

theorem writtenAs_write (stored : StoredState) : stored.WrittenAs stored.write := by
  cases stored with
  | untrained => exact .untrained
  | failed => exact .failed
  | ready vocabularies => exact .ready vocabularies.writtenAs_write
  | testDataFeaturized vocabularies => exact .testDataFeaturized vocabularies.writtenAs_write

theorem read_written {stored : StoredState} {bytes : Bytes} (fit : ∀ vocabulary ∈ stored.vocabularies, vocabulary.Fits)
    (written : stored.WrittenAs bytes) : Spells StoredState.read bytes stored := by
  intro behind
  cases written with
  | untrained =>
    simp only [StoredState.read, tag_write (by decide : 0 < 256 ^ tagSize) _, ok_bind, pure_eq_ok]
  | failed =>
    simp only [StoredState.read, tag_write (by decide : 1 < 256 ^ tagSize) _, ok_bind, pure_eq_ok]
  | ready same =>
    have two : 2 < 256 ^ tagSize := by decide
    simp only [List.append_assoc, StoredState.read, tag_write two _, ok_bind, Vocabularies.read_written fit same _, ok_map]
  | testDataFeaturized same =>
    have three : 3 < 256 ^ tagSize := by decide
    simp only [List.append_assoc, StoredState.read, tag_write three _, ok_bind, Vocabularies.read_written fit same _,
      ok_map]

end StoredState

namespace Featurizer

structure Fits (featurizer : Featurizer) : Prop where
  config : featurizer.config.Fits
  normalizer : featurizer.normalizer.Fits
  vocabularies : ∀ vocabulary ∈ (StoredState.ofState featurizer.state).vocabularies, vocabulary.Fits

def WrittenAs (featurizer : Featurizer) (bytes : Bytes) : Prop :=
  ∃ stored, (StoredState.ofState featurizer.state).WrittenAs stored ∧
    bytes = featurizer.config.write ++ featurizer.normalizer.write ++ stored

variable {featurizer : Featurizer} {config : Config} {normalizer : Normalizer} {stored : StoredState} {bytes : Bytes}

theorem writtenAs_write (featurizer : Featurizer) : featurizer.WrittenAs featurizer.write :=
  ⟨_, StoredState.writtenAs_write _, rfl⟩

-- What is read before any vectorizer is made from it.
def contents (bytes : Bytes) : Except Damage (Config × Normalizer × StoredState) := do
  let (config, bytes) ← Config.read bytes
  let (normalizer, bytes) ← Normalizer.read bytes
  let (stored, _) ← StoredState.read bytes
  return (config, normalizer, stored)

theorem ofBytes_eq : ofBytes bytes = contents bytes >>= fun (config, normalizer, stored) =>
    match stored.toState config normalizer with
    | .error _ => .error .unreadable
    | .ok state => .ok ⟨config, normalizer, state⟩ := by
  unfold ofBytes contents
  cases Config.read bytes with
  | error damage => rfl
  | ok read =>
    simp only [ok_bind]
    cases Normalizer.read read.2 with
    | error damage => rfl
    | ok read =>
      simp only [ok_bind]
      cases StoredState.read read.2 <;> rfl

theorem contents_written (configFits : config.Fits) (normalizerFits : normalizer.Fits) (ordered : normalizer.Ordered)
    (fit : ∀ vocabulary ∈ stored.vocabularies, vocabulary.Fits) (written : stored.WrittenAs bytes) (behind : Bytes) :
    contents (config.write ++ normalizer.write ++ bytes ++ behind) = .ok (config, normalizer, stored) := by
  simp only [contents, List.append_assoc, Config.read_write configFits _, ok_bind,
    Normalizer.read_write normalizerFits ordered _, StoredState.read_written fit written _, pure_eq_ok]

-- Everything but the vectorizers is read as it was. These are made anew from it.
theorem ofBytes_written (fits : featurizer.Fits) (ordered : featurizer.normalizer.Ordered)
    (remade : (StoredState.ofState featurizer.state).toState featurizer.config featurizer.normalizer =
      .ok featurizer.state) (written : featurizer.WrittenAs bytes) (behind : Bytes) :
    ofBytes (bytes ++ behind) = .ok featurizer := by
  obtain ⟨stored, spelled, rfl⟩ := written
  have read := contents_written fits.config fits.normalizer ordered fits.vocabularies spelled behind
  simp only [ofBytes_eq, read, ok_bind, remade]

end Featurizer

end TextFeatures
