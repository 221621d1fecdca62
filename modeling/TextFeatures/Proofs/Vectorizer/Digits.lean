import TextFeatures.Proofs.Text.Collapsing
import TextFeatures.Proofs.Vectorizer

namespace TextFeatures
open Pattern

variable {normalizer : Normalizer} {vocabulary? : Option Vocabulary} {one other : String} {corpus others : List String}
  {vectorizer : Vectorizer}

namespace Analysis

theorem terms_congr {analysis : Analysis} (words : analysis.analyzer = .word)
    (same : SameButNumbers (normalizer.preprocess one).toList (normalizer.preprocess other).toList) :
    analysis.terms normalizer vocabulary? one = analysis.terms normalizer vocabulary? other := by
  cases analysis with
  | words pattern stopWords least most => simp only [terms, wordTokens, collapseNumbers_congr same]
  | grams sizes => cases inside : sizes.insideWords <;> simp [analyzer, inside] at words

end Analysis

namespace Vectorizer

-- Documents that differ in the digits of their numbers at most, once they are in their form.
def SameDocument (vectorizer : Vectorizer) (one other : String) : Prop :=
  SameButNumbers (vectorizer.normalizer.preprocess one).toList (vectorizer.normalizer.preprocess other).toList

theorem terms_of_sameDocument (words : vectorizer.analysis.analyzer = .word) (same : vectorizer.SameDocument one other) :
    vectorizer.terms vocabulary? one = vectorizer.terms vocabulary? other := by
  unfold terms
  rw [Analysis.terms_congr words same]

theorem mapM_terms_of_sameDocument (words : vectorizer.analysis.analyzer = .word)
    (same : List.Forall₂ vectorizer.SameDocument corpus others) :
    corpus.mapM (vectorizer.terms vocabulary?) = others.mapM (vectorizer.terms vocabulary?) := by
  apply mapM_congr
  apply same.imp
  intro one other same
  exact terms_of_sameDocument words same

theorem fit_of_sameDocument (words : vectorizer.analysis.analyzer = .word)
    (same : List.Forall₂ vectorizer.SameDocument corpus others) : vectorizer.fit corpus = vectorizer.fit others := by
  simp only [fit, learn, mapM_terms_of_sameDocument words same]

theorem transform_of_sameDocument (words : vectorizer.analysis.analyzer = .word)
    (same : List.Forall₂ vectorizer.SameDocument corpus others) :
    vectorizer.transform corpus = vectorizer.transform others := by
  unfold transform
  cases vectorizer.vocabulary with
  | none => rfl
  | some vocabulary => simp only [mapM_terms_of_sameDocument words same]

-- The words made of digits are replaced, and nothing else. A second time nothing is left to be replaced, and where
-- texts are cut into words it makes no difference which digits there were.
theorem numbers_collapse :
    (∀ text : String, (Text.collapseNumbers text).toList = (Text.cut Unicode.isWord text.toList).flatMap collapsed) ∧
    (∀ text : String, Text.collapseNumbers (Text.collapseNumbers text) = Text.collapseNumbers text) ∧
    ∀ (config : Config) (vectorizer : Vectorizer), config.validate = .ok () → config.analyzer = .word →
      Analysis.ofConfig config = .ok vectorizer.analysis →
      (∀ vocabulary? one other, vectorizer.SameDocument one other → ∃ terms,
        vectorizer.terms vocabulary? one = .ok terms ∧ vectorizer.terms vocabulary? other = .ok terms) ∧
      ∀ corpus others, List.Forall₂ vectorizer.SameDocument corpus others →
        vectorizer.fit corpus = vectorizer.fit others ∧ vectorizer.transform corpus = vectorizer.transform others := by
  refine ⟨fun _ => toList_collapseNumbers_cut, fun _ => collapseNumbers_collapseNumbers, ?_⟩
  intro config vectorizer accepted words configured
  have analyzer : vectorizer.analysis.analyzer = .word := by
    rw [Analysis.analyzer_ofConfig configured, words]
  constructor
  · intro vocabulary? one other same
    have terms : ∃ terms, vectorizer.terms vocabulary? one = .ok terms := exists_terms accepted configured
    obtain ⟨terms, given⟩ := terms
    refine ⟨terms, given, ?_⟩
    rw [← terms_of_sameDocument analyzer same]
    exact given
  · intro corpus others same
    exact ⟨fit_of_sameDocument analyzer same, transform_of_sameDocument analyzer same⟩

-- Two numbers that change, and digits that belong to other words and do not.
theorem numbers_collapse_in_rooms :
    ∃ vectorizer, ofConfig .default (Normalizer.ofConfig .default).1 = .ok vectorizer ∧
      vectorizer.SameDocument "Room 12b, floor 3; 365_1 40" "room 12B, floor 118; 365_1 7" ∧
      vectorizer.terms none "Room 12b, floor 3; 365_1 40" =
        .ok ["room", "12b", "floor", "__NUMBER__", "365_1", "__NUMBER__"] ∧
      vectorizer.terms none "room 12B, floor 118; 365_1 7" =
        .ok ["room", "12b", "floor", "__NUMBER__", "365_1", "__NUMBER__"] ∧
      vectorizer.fit ["Room 12b, floor 3; 365_1 40"] = vectorizer.fit ["room 12B, floor 118; 365_1 7"] := by
  obtain ⟨vectorizer, made, evaluated⟩ : ∃ vectorizer,
      ofConfig .default (Normalizer.ofConfig .default).1 = .ok vectorizer ∧
      (vectorizer.terms none "Room 12b, floor 3; 365_1 40").toOption =
        some ["room", "12b", "floor", "__NUMBER__", "365_1", "__NUMBER__"] := ⟨_, rfl, by decide +kernel⟩
  have same : vectorizer.SameDocument "Room 12b, floor 3; 365_1 40" "room 12B, floor 118; 365_1 7" := by
    unfold SameDocument
    rw [normalizer_ofConfig made]
    decide +kernel
  obtain ⟨_, _, each⟩ := numbers_collapse
  obtain ⟨sameTerms, sameCounts⟩ := each .default vectorizer rfl rfl (analysis_ofConfig made)
  obtain ⟨terms, given, givenToo⟩ := sameTerms none _ _ same
  rw [given, Except.toOption, Option.some.injEq] at evaluated
  subst evaluated
  exact ⟨vectorizer, made, same, given, givenToo, (sameCounts _ _ (.cons same .nil)).1⟩

end Vectorizer

end TextFeatures
