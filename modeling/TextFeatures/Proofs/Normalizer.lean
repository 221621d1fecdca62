import TextFeatures.Normalizer
import TextFeatures.Proofs.Dictionary

namespace TextFeatures.Normalizer

variable {config : Config} {normalizer : Normalizer} {lemmatizers others : List Lemmatizer}
  {marker text : String}

def lemmatizedBy (normalizer : Normalizer) (lemmatizers : List Lemmatizer) : Normalizer :=
  lemmatizers.foldl lemmatized normalizer

theorem lemmatizedBy_append :
    normalizer.lemmatizedBy (lemmatizers ++ others) = (normalizer.lemmatizedBy lemmatizers).lemmatizedBy others :=
  List.foldl_append

theorem oovMarker_ofConfig : (ofConfig config).1.oovMarker = config.oovMarker.map (foldCase config.lowercase) := by
  unfold ofConfig
  dsimp only
  split <;> rfl

theorem lowercase_ofConfig : (ofConfig config).1.lowercase = config.lowercase := by
  unfold ofConfig
  dsimp only
  split <;> rfl

theorem preprocess_ofConfig : (ofConfig config).1.preprocess text =
    match config.stripAccents with
    | none => foldCase config.lowercase text
    | some mode => mode.strip (foldCase config.lowercase text) := by
  unfold ofConfig
  dsimp only
  split <;> rfl

-- With a marker, the words that it stands for are the configured ones in the case that texts are brought into.
theorem contains_oovWords_ofConfig (marked : config.oovMarker = some marker) :
    (ofConfig config).1.oovWords.contains text = true ↔ text ∈ config.oovWords.map (foldCase config.lowercase) := by
  simp [ofConfig, marked, mem_sortedDistinct]

@[simp] theorem oovMarker_lemmatizedBy : (normalizer.lemmatizedBy lemmatizers).oovMarker = normalizer.oovMarker := by
  induction lemmatizers generalizing normalizer with
  | nil => rfl
  | cons lemmas more ih => exact ih.trans rfl

theorem lemmatizedBy_of_fixed (fixed : ∀ lemmas ∈ lemmatizers, normalizer.lemmatized lemmas = normalizer) :
    normalizer.lemmatizedBy lemmatizers = normalizer := by
  induction lemmatizers with
  | nil => rfl
  | cons lemmas more ih =>
    obtain ⟨first, rest⟩ := List.forall_mem_cons.mp fixed
    rw [lemmatizedBy, List.foldl_cons, first]
    exact ih rest

theorem lemmatizedBy_of_nil (none : normalizer.oovWords = []) : normalizer.lemmatizedBy lemmatizers = normalizer := by
  refine lemmatizedBy_of_fixed fun lemmas _ => ?_
  rw [lemmatized, none]
  cases normalizer
  cases none
  rfl

theorem lemmatizedBy_of_idempotent {lemmas : Lemmatizer} (same : ∀ each ∈ lemmatizers, each = lemmas)
    (idempotent : (normalizer.lemmatized lemmas).lemmatized lemmas = normalizer.lemmatized lemmas) :
    normalizer.lemmatizedBy (lemmatizers ++ [lemmas]) = normalizer.lemmatized lemmas := by
  cases lemmatizers with
  | nil => rfl
  | cons first more =>
    obtain ⟨rfl, sameMore⟩ := List.forall_mem_cons.mp same
    have fixed : ∀ each ∈ more ++ [first], (normalizer.lemmatized first).lemmatized each = normalizer.lemmatized first := by
      intro each member
      rcases List.mem_append.mp member with earlier | last
      · rw [sameMore each earlier, idempotent]
      · rw [List.mem_singleton.mp last, idempotent]
    exact lemmatizedBy_of_fixed fixed

end TextFeatures.Normalizer
