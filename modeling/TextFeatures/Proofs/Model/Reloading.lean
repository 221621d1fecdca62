import TextFeatures.Model.Store
import TextFeatures.Proofs.Featurizer.Processing
import TextFeatures.Proofs.Model.Format

namespace TextFeatures

namespace Normalizer

theorem ordered_sortedDistinct {normalizer : Normalizer} {words : List String}
    (same : normalizer.oovWords = sortedDistinct words) : normalizer.Ordered := by
  rw [Ordered, same]
  exact sortedDistinct_ordered words

theorem ordered_ofConfig (config : Config) : (ofConfig config).1.Ordered := by
  simp only [ofConfig]
  split
  · exact .nil
  · exact ordered_sortedDistinct rfl

theorem ordered_lemmatized (normalizer : Normalizer) (lemmas : Lemmatizer) : (normalizer.lemmatized lemmas).Ordered :=
  ordered_sortedDistinct rfl

end Normalizer

-- A fitted vectorizer is nothing but its configuration, its normalizer and its vocabulary.
theorem Vectorizers.Trained.remade {config : Config} {normalizer : Normalizer} {vectorizers : Vectorizers}
    (trained : vectorizers.Trained config normalizer) :
    (Vocabularies.ofVectorizers vectorizers).toVectorizers config normalizer = .ok vectorizers := by
  cases trained with
  | shared _ both =>
    simp only [Vocabularies.ofVectorizers, both.fitted, Option.getD_some, Vocabularies.toVectorizers, both.configured,
      ok_bind, pure_eq_ok]
  | separate _ text label =>
    simp only [Vocabularies.ofVectorizers, text.fitted, label.fitted, Option.getD_some, Vocabularies.toVectorizers,
      text.configured, label.configured, ok_bind, pure_eq_ok]

theorem ModelStore.get?_of_put? {store kept : ModelStore} {path : String} {bytes : Bytes}
    (put : store.put? path bytes = some kept) : kept.get? path = some bytes := by
  unfold put? at put
  cases short : shortPath? path with
  | none => simp [short] at put
  | some name =>
    simp only [short, Option.map_some, Option.some.injEq] at put
    subst put
    simp [get?, short]

namespace Featurizer
open Bytes ModelStore

variable {config other : Config} {featurizer next : Featurizer} {lemmatizer : Option Lemmatizer} {data : TrainingData}
  {message : Message} {testData : Option TrainingData} {store after : ModelStore} {name : String}
  {reference : ModelReference}

-- What holds of a featurizer through all of its life, also of what it keeps of the words out of the vocabulary.
structure Lasting (config : Config) (featurizer : Featurizer) : Prop extends Sound config featurizer where
  ordered : featurizer.normalizer.Ordered

theorem lasting_ofConfig {notices : List Notice} (made : ofConfig config = (.ok featurizer, notices)) :
    Lasting config featurizer := by
  refine ⟨sound_ofConfig made, ?_⟩
  obtain ⟨_, rfl⟩ := ofConfig_eq_ok made
  exact Normalizer.ordered_ofConfig config

theorem ordered_trainingNormalizer (ordered : featurizer.normalizer.Ordered) :
    (featurizer.trainingNormalizer lemmatizer).Ordered := by
  cases lemmatizer with
  | none => exact ordered
  | some lemmas => exact featurizer.normalizer.ordered_lemmatized lemmas

theorem train_lasting (lasting : Lasting config featurizer) :
    Lasting config (featurizer.train lemmatizer data).featurizer := by
  refine ⟨train_preserves lasting.toSound, ?_⟩
  cases (train_ends : TrainEnd featurizer lemmatizer data _) with
  | unlearned _ _ state =>
    rw [state]
    exact lasting.ordered
  | refused _ _ _ unchanged =>
    rw [unchanged]
    exact lasting.ordered
  | trained _ _ state =>
    rw [state]
    exact ordered_trainingNormalizer lasting.ordered

theorem process_lasting (lasting : Lasting config featurizer) :
    Lasting config (featurizer.process message testData).featurizer := by
  refine ⟨process_preserves lasting.toSound, ?_⟩
  rw [process_normalizer]
  exact lasting.ordered

theorem step_lasting (lasting : Lasting config featurizer) (step : Step featurizer next) : Lasting config next := by
  cases step with
  | train => exact train_lasting lasting
  | process => exact process_lasting lasting

theorem reached_lasting (path : Reached config featurizer) : Lasting config featurizer := by
  induction path with
  | made built => exact lasting_ofConfig built
  | step _ step ih => exact step_lasting ih step

theorem Lasting.remade (lasting : Lasting config featurizer) :
    (StoredState.ofState featurizer.state).toState featurizer.config featurizer.normalizer = .ok featurizer.state := by
  obtain ⟨⟨rfl, _, trained⟩, _⟩ := lasting
  cases state : featurizer.state with
  | untrained => rfl
  | failed => rfl
  | ready vectorizers =>
    have same := (trained vectorizers (by rw [state]; rfl)).remade
    simp only [StoredState.ofState, StoredState.toState, same, ok_map]
  | testDataFeaturized vectorizers =>
    have same := (trained vectorizers (by rw [state]; rfl)).remade
    simp only [StoredState.ofState, StoredState.toState, same, ok_map]

-- A featurizer is kept in a file, with the terms of its vocabularies in no particular order.
inductive Kept (featurizer : Featurizer) (name : String) (store : ModelStore) : ModelReference → ModelStore → Prop
  | written {bytes : Bytes} {after : ModelStore} : featurizer.WrittenAs bytes →
      store.put? (fileName name) bytes = some after → Kept featurizer name store ⟨fileName name⟩ after

theorem kept_of_persist (persisted : persist featurizer name store = .ok (reference, after)) :
    Kept featurizer name store reference after := by
  unfold persist at persisted
  split at persisted
  · rename_i put
    cases persisted
    exact .written featurizer.writtenAs_write put
  · cases persisted

theorem load_kept (lasting : Lasting config featurizer) (fits : featurizer.Fits)
    (kept : Kept featurizer name store reference after) :
    load other (some reference) after = .succeed featurizer := by
  obtain ⟨written, put⟩ := kept
  have read := ofBytes_written fits lasting.ordered lasting.remade written []
  rw [List.append_nil] at read
  simp only [load, get?_of_put? put, Option.map_some, Option.getD_some, read]

-- What can be asked of a featurizer, one call after the other, and what it says.

inductive Call where
  | process (message : Message) (testData : Option TrainingData)
  | transform (ofLabels : Bool) (texts : List String)
  | sequence (ofLabels : Bool) (texts : List String)

inductive Answer where
  | processed (result : Except Error Bool) (message : Message) (testData : Option TrainingData)
  | counted (counts : Option (Except Error (SparseMatrix Nat)))
  | sequenced (batch : Option (Except Error (Batch Int)))

def asked (featurizer : Featurizer) (ofLabels : Bool) : Option Vectorizer :=
  featurizer.state.vectorizers?.map fun vectorizers => if ofLabels then vectorizers.forLabel else vectorizers.forText

def answer (featurizer : Featurizer) : Call → Answer × Featurizer
  | .process message testData =>
    let outcome := featurizer.process message testData
    (.processed outcome.result outcome.message outcome.testData, outcome.featurizer)
  | .transform ofLabels texts => (.counted ((featurizer.asked ofLabels).map (·.transform texts)), featurizer)
  | .sequence ofLabels texts =>
    (.sequenced ((featurizer.asked ofLabels).map (sequenceCounts featurizer.config · texts)), featurizer)

def answers (featurizer : Featurizer) : List Call → List Answer
  | [] => []
  | call :: rest => (featurizer.answer call).1 :: (featurizer.answer call).2.answers rest

-- What is read again is the featurizer that was kept, whatever order its terms were written in.
theorem load_undoes_persist (path : Reached config featurizer) (fits : featurizer.Fits) (name : String)
    (store after : ModelStore) (reference : ModelReference) :
    (persist featurizer name store = .ok (reference, after) → Kept featurizer name store reference after) ∧
    (Kept featurizer name store reference after → ∀ other, ∃ loaded,
      load other (some reference) after = .succeed loaded ∧ loaded.config = featurizer.config ∧
        loaded.normalizer = featurizer.normalizer ∧ loaded.state = featurizer.state ∧
        ∀ calls, loaded.answers calls = featurizer.answers calls) := by
  refine ⟨kept_of_persist, ?_⟩
  intro kept other
  exact ⟨featurizer, load_kept (reached_lasting path) fits kept, rfl, rfl, rfl, fun _ => rfl⟩

theorem lettersLearned_stored : StoredState.ofState lettersLearned.state =
    .ready (.separate ⟨⟨[("a", 0), ("b", 1)], by decide⟩⟩ ⟨⟨[("x", 0)], by decide⟩⟩) := rfl

theorem letterConfig_fits : letterConfig.Fits := by
  have none {α : Type} {P : α → Prop} : ∀ a ∈ (none : Option α), P a := by simp
  exact ⟨by decide, none, (by decide : 1 < wordLimit), trivial, by decide, by decide, none, none,
    ⟨by decide, List.forall_mem_nil _⟩⟩

def leftAlone : Normalizer := ⟨false, none, none, []⟩

theorem leftAlone_fits : leftAlone.Fits := ⟨by simp [leftAlone], ⟨by decide, List.forall_mem_nil _⟩⟩

theorem lettersLearned_fits : lettersLearned.Fits := by
  have config : lettersLearned.config = letterConfig := (reached_sound reached_lettersLearned).configured
  have normalizer : lettersLearned.normalizer = leftAlone := by decide +kernel
  refine ⟨config ▸ letterConfig_fits, normalizer ▸ leftAlone_fits, ?_⟩
  rw [lettersLearned_stored]
  simp only [StoredState.vocabularies, Vocabularies.toList, List.forall_mem_cons]
  exact ⟨⟨by decide, by decide⟩, ⟨by decide, by decide⟩, List.forall_mem_nil _⟩

def lettersBackwards : Bytes :=
  lettersLearned.config.write ++ lettersLearned.normalizer.write ++
    (writeTag 2 ++ (writeTag 1 ++ writeList Vocabulary.writeEntry [("b", 1), ("a", 0)] ++
      writeList Vocabulary.writeEntry [("x", 0)]))

theorem lettersLearned_written : lettersLearned.WrittenAs lettersBackwards := by
  refine ⟨_, ?_, rfl⟩
  rw [lettersLearned_stored]
  exact .ready (.separate ⟨_, .swap _ _ _, rfl⟩ ⟨_, .refl _, rfl⟩)

theorem put?_letters (store : ModelStore) (bytes : Bytes) :
    store.put? (fileName "m") bytes = some ⟨store.files.insert "m.bin" bytes⟩ := by
  have steps : "m.bin".splitOn "/" = ["m.bin"] := by
    simp only [String.splitOn]
    repeat (unfold String.splitOnAux; simp +decide)
  have relative : "m.bin".startsWith "/" = false := by simp
  have short : shortPath? (fileName "m") = some "m.bin" := by
    simp only [shortPath?, show fileName "m" = "m.bin" by decide, steps, relative]
    decide
  rw [put?, short, Option.map_some]

theorem load_lettersBackwards :
    (Reached letterConfig lettersLearned ∧ lettersLearned.Fits) ∧
    Kept lettersLearned "m" .empty ⟨fileName "m"⟩ ⟨Dictionary.empty.insert "m.bin" lettersBackwards⟩ ∧
    ∀ other, ∃ loaded,
      load other (some ⟨fileName "m"⟩) ⟨Dictionary.empty.insert "m.bin" lettersBackwards⟩ = .succeed loaded ∧
        loaded.config = lettersLearned.config ∧ loaded.normalizer = lettersLearned.normalizer ∧
        loaded.state = lettersLearned.state ∧ ∀ calls, loaded.answers calls = lettersLearned.answers calls := by
  have kept : Kept lettersLearned "m" .empty ⟨fileName "m"⟩ ⟨Dictionary.empty.insert "m.bin" lettersBackwards⟩ :=
    .written lettersLearned_written (put?_letters .empty lettersBackwards)
  exact ⟨⟨reached_lettersLearned, lettersLearned_fits⟩, kept,
    (load_undoes_persist reached_lettersLearned lettersLearned_fits "m" .empty _ _).2 kept⟩

end Featurizer

end TextFeatures
