import TextFeatures.Config.Json
import TextFeatures.Proofs.Config.Shares
import TextFeatures.Proofs.Json.Decoding
import TextFeatures.Proofs.Vectorizer

namespace TextFeatures

theorem Analyzer.ofJson?_text (analyzer : Analyzer) : ofJson? (.text analyzer.name) = some analyzer := by
  cases analyzer <;> rfl

theorem Text.AccentStripping.ofJson?_text (mode : AccentStripping) : ofJson? (.text mode.name) = some mode := by
  cases mode <;> rfl

-- A list of stop words is no name, whatever it lists.
theorem StopWords.ofJson?_toJson (stopWords : StopWords) : ofJson? stopWords.toJson = some stopWords := by
  cases stopWords with
  | english => rfl
  | custom words =>
    have listed : (Json.array (words.map .text)).list? Json.text? = some words := Json.list?_texts
    exact congrArg (Option.map custom) listed

namespace DocumentFrequency

variable {bound : DocumentFrequency} {which : Bound}

-- A count that a word of the machine holds, or a share that is printed and read as the same double.
def Printable : DocumentFrequency → Prop
  | count documents => documents < Numeral.wordLimit
  | fraction share => Json.ReadsBack share.value

theorem ofJson?_toJson (checked : bound.check which = .ok ()) (printable : bound.Printable) :
    ofJson? bound.toJson = some bound := by
  cases bound with
  | count documents =>
    have read : (Json.natural documents).number? = some (.natural documents) := Numeral.number?_ofNat printable
    rw [toJson, ofJson?, read]
  | fraction share =>
    rw [check] at checked
    split at checked
    · rename_i within
      obtain ⟨finite, number⟩ := Share.finite_of_within within
      rw [toJson, ofJson?, Json.number?_real finite printable]
      exact congrArg (some ∘ fraction) (Share.ofFloat_value number)
    · cases checked

theorem wellFormed_toJson (bound : DocumentFrequency) : bound.toJson.WellFormed := by
  cases bound with
  | count documents => exact Json.wellFormed_natural documents
  | fraction share => exact Json.wellFormed_real share.value

end DocumentFrequency

namespace Config

variable {config : Config}

structure Printable (config : Config) : Prop where
  leastFrequency : config.leastFrequency.Printable
  mostFrequency : config.mostFrequency.Printable
  leastNgram : config.leastNgram < Numeral.wordLimit
  mostNgram : config.mostNgram < Numeral.wordLimit
  featureLimit : ∀ limit ∈ config.featureLimit, limit < Numeral.wordLimit

theorem wellFormed_toJson (config : Config) : config.toJson.WellFormed := by
  refine Json.wellFormed_record ?_
  simp only [List.forall_mem_cons, List.not_mem_nil, false_imp_iff, implies_true, and_true]
  refine ⟨.bool, .bool, .bool, .string, .string, ?_, ?_, ?_, ?_, ?_, ?_, ?_, .bool, ?_, ?_⟩
  · exact Json.wellFormed_optional fun _ => .string
  · refine Json.wellFormed_optional fun stopWords => ?_
    cases stopWords with
    | english => exact .string
    | custom => exact Json.wellFormed_texts
  · exact config.leastFrequency.wellFormed_toJson
  · exact config.mostFrequency.wellFormed_toJson
  · exact Json.wellFormed_natural config.leastNgram
  · exact Json.wellFormed_natural config.mostNgram
  · exact Json.wellFormed_optional Json.wellFormed_natural
  · exact Json.wellFormed_optional fun _ => .string
  · exact Json.wellFormed_texts

theorem ofJson?_toJson (accepted : config.validate = .ok ()) (printable : config.Printable) :
    ofJson? config.toJson = some config := by
  obtain ⟨_, leastChecked, mostChecked, _⟩ := validate_eq_ok_iff.mp accepted
  have distinct : names.Nodup := by decide
  have fields : config.toJson.leadingFields? names = some [
      some (.bool config.sequence), some (.bool config.sharedVocabulary), some (.bool config.sparse),
      some (.text config.analyzer.name), some (.text config.tokenPattern),
      some (.optional (.text ·.name) config.stripAccents), some (.optional StopWords.toJson config.stopWords),
      some config.leastFrequency.toJson, some config.mostFrequency.toJson, some (.natural config.leastNgram),
      some (.natural config.mostNgram), some (.optional Json.natural config.featureLimit),
      some (.bool config.lowercase), some (.optional Json.text config.oovMarker),
      some (.array (config.oovWords.map .text))] := Json.leadingFields?_record distinct
  have accents : Json.optional? Text.AccentStripping.ofJson? (.optional (.text ·.name) config.stripAccents) =
      some config.stripAccents := Json.optional?_optional fun mode _ => ⟨nofun, mode.ofJson?_text⟩
  have stopWords : Json.optional? StopWords.ofJson? (.optional StopWords.toJson config.stopWords) =
      some config.stopWords := by
    refine Json.optional?_optional fun stopWords _ => ⟨?_, stopWords.ofJson?_toJson⟩
    cases stopWords <;> exact nofun
  have limit : Json.optional? Json.natural? (.optional Json.natural config.featureLimit) = some config.featureLimit :=
    Json.optional?_optional fun limit given => ⟨nofun, Json.natural?_natural (printable.featureLimit limit given)⟩
  have marker : Json.optional? Json.text? (.optional Json.text config.oovMarker) = some config.oovMarker :=
    Json.optional?_optional fun _ _ => ⟨nofun, rfl⟩
  rw [ofJson?, fields]
  simp only [Json.withDefault?, Json.bool?, Json.text?_text, Analyzer.ofJson?_text, accents, stopWords,
    DocumentFrequency.ofJson?_toJson leastChecked printable.leastFrequency,
    DocumentFrequency.ofJson?_toJson mostChecked printable.mostFrequency,
    Json.natural?_natural printable.leastNgram, Json.natural?_natural printable.mostNgram, limit, marker,
    Json.list?_texts, Option.bind_eq_bind, Option.bind_some, Option.pure_def]

-- The text of a configuration that is accepted is read as the same configuration.
theorem ofText_render (accepted : config.validate = .ok ()) (printable : config.Printable) :
    ofText config.render = .ok config := by
  rw [ofText, parse, render, Json.parse?_render config.wellFormed_toJson, Option.bind_some,
    ofJson?_toJson accepted printable]
  simp only [accepted]

-- One document and all documents, a list of one word that is also a name, and characters that are written otherwise.
def outlandish : Config := {
  default with
  analyzer := .charInWord
  tokenPattern := "\"\\d+\"\n\x01"
  stripAccents := some .unicode
  stopWords := some (.custom ["english"])
  mostNgram := 3
  featureLimit := some 1000
  oovMarker := some "oov\t"
  oovWords := ["é", "𝄞"] }

theorem outlandish_rendered : outlandish.validate = .ok () ∧ outlandish.Printable ∧
    outlandish.leastFrequency = .count 1 ∧ outlandish.mostFrequency = .share 1 ∧
    ofText outlandish.render = .ok outlandish := by
  have accepted : outlandish.validate = .ok () := rfl
  have all : Json.ReadsBack (Share.ofFloat 1).value := by
    unfold Json.ReadsBack
    decide +kernel
  have printable : outlandish.Printable := by
    have one : 1 < Numeral.wordLimit := by decide
    refine ⟨one, all, one, by decide, ?_⟩
    rintro limit ⟨⟩
    decide
  exact ⟨accepted, printable, rfl, rfl, ofText_render accepted printable⟩

end Config

end TextFeatures
