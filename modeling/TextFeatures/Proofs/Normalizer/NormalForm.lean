import TextFeatures.Proofs.Text.Accents
import TextFeatures.Vectorizer.Analysis

namespace TextFeatures
open Unicode

section Terms

variable {normalizer : Normalizer} {vocabulary : Option Vocabulary} {analysis : Analysis} {document other : String}

-- Terms are looked for in a text as it is once it has been preprocessed, and in nothing else.
theorem Analysis.terms_of_preprocess (alike : normalizer.preprocess document = normalizer.preprocess other) :
    analysis.terms normalizer vocabulary document = analysis.terms normalizer vocabulary other := by
  cases analysis <;> simp only [terms, wordTokens, alike]

end Terms

namespace Normalizer

variable {c d : Char} {normalizer : Normalizer} {mode : Text.AccentStripping} {text : String}

-- A character in which there is a capital that lowercasing does not find, for it only comes out when accents are
-- stripped afterwards. The trade mark sign, for one, is decomposed into two of them.
def conceals (normalizer : Normalizer) (c : Char) : Bool :=
  normalizer.lowercase && normalizer.stripAccents.any fun mode =>
    (lowercaseChar c).any fun small => (decomposeChar small).any fun d => mode.keeps d && decide (¬IsSmall d)

theorem conceals_eq_false (atMost : normalizer.lowercase = false ∨ normalizer.stripAccents = none) :
    normalizer.conceals c = false := by
  rcases atMost with keeps | leaves
  · rw [conceals, keeps, Bool.false_and]
  · rw [conceals, leaves, Option.any_none, Bool.and_false]

section Both

variable (folds : normalizer.lowercase = true) (strips : normalizer.stripAccents = some mode)

include folds strips

theorem preprocess_both : normalizer.preprocess text = mode.strip (Unicode.lowercase text) := by
  rw [preprocess, strips, folds]
  rfl

theorem mem_preprocess_both : d ∈ (normalizer.preprocess text).toList ↔
    (∃ small ∈ lowercaseAfter [] text.toList, d ∈ decomposeChar small) ∧ mode.keeps d = true := by
  rw [preprocess_both folds strips, Text.AccentStripping.mem_strip, Unicode.lowercase, String.toList_ofList]

theorem whole_of_mem_preprocess (member : d ∈ (normalizer.preprocess text).toList) : IsWhole d := by
  rw [preprocess_both folds strips] at member
  exact Text.AccentStripping.whole_of_mem_strip member

theorem conceals_iff : normalizer.conceals c = true ↔
    ∃ small ∈ lowercaseChar c, ∃ d ∈ decomposeChar small, mode.keeps d = true ∧ ¬IsSmall d := by
  simp only [conceals, folds, strips, Option.any_some, Bool.true_and, List.any_eq_true, Bool.and_eq_true,
    decide_eq_true_eq]

theorem preprocess_of_small (each : ∀ c ∈ (normalizer.preprocess text).toList, IsSmall c) :
    normalizer.preprocess (normalizer.preprocess text) = normalizer.preprocess text := by
  calc normalizer.preprocess (normalizer.preprocess text)
      = mode.strip (Unicode.lowercase (normalizer.preprocess text)) := preprocess_both folds strips
    _ = mode.strip (normalizer.preprocess text) := by rw [lowercase_of_small each]
    _ = normalizer.preprocess text := by rw [preprocess_both folds strips, Text.AccentStripping.strip_strip]

-- After a second pass nothing is: what the first one left is not decomposed any more, except for capitals that the
-- second one lowercases, and there are no capitals in those.
theorem small_of_mem_second (member : d ∈ (normalizer.preprocess (normalizer.preprocess text)).toList) : IsSmall d := by
  obtain ⟨⟨small, form, part⟩, _⟩ := (mem_preprocess_both folds strips).mp member
  rcases mem_lowercaseAfter form with ⟨c, among, form⟩ | sigma
  · by_cases same : IsSmall c
    · rw [same.eq_of_mem form] at part
      have whole : IsWhole c := whole_of_mem_preprocess folds strips among
      rwa [whole.eq_of_mem part]
    · exact small_of_mem_decompose_lowercase same form part
  · exact small_of_mem_decompose_sigma sigma part

-- The capital that is lowercased by its surroundings is not concealed, whatever becomes of it.
theorem conceals_sigma : normalizer.conceals 'Σ' = false := by
  rw [Bool.eq_false_iff, Ne, conceals_iff folds strips]
  rintro ⟨small, form, d, part, _, capital⟩
  have sigma : small = 'σ' := by
    have only : lowercaseChar 'Σ' = ['σ'] := by decide +kernel
    rwa [only, List.mem_singleton] at form
  exact capital (small_of_mem_decompose_sigma (.inl sigma) part)

theorem small_of_mem_preprocess (revealed : ∀ c ∈ text.toList, normalizer.conceals c = false)
    (member : d ∈ (normalizer.preprocess text).toList) : IsSmall d := by
  obtain ⟨⟨small, form, part⟩, kept⟩ := (mem_preprocess_both folds strips).mp member
  rcases mem_lowercaseAfter form with ⟨c, among, form⟩ | sigma
  · by_contra capital
    have concealed := (conceals_iff folds strips).mpr ⟨small, form, d, part, kept, capital⟩
    exact Bool.false_ne_true ((revealed c among).symm.trans concealed)
  · exact small_of_mem_decompose_sigma sigma part

theorem exists_capital_of_conceals (among : c ∈ text.toList) (concealed : normalizer.conceals c = true) :
    ∃ d ∈ (normalizer.preprocess text).toList, ¬IsSmall d := by
  have other : c ≠ 'Σ' := by
    rintro rfl
    exact Bool.false_ne_true ((conceals_sigma folds strips).symm.trans concealed)
  obtain ⟨small, form, d, part, kept, capital⟩ := (conceals_iff folds strips).mp concealed
  have lowercased : small ∈ lowercaseAfter [] text.toList := mem_lowercaseAfter_of_mem among other form
  exact ⟨d, (mem_preprocess_both folds strips).mpr ⟨⟨small, lowercased, part⟩, kept⟩, capital⟩

theorem settles_iff_of_both : normalizer.preprocess (normalizer.preprocess text) = normalizer.preprocess text ↔
    ∀ c ∈ text.toList, normalizer.conceals c = false := by
  refine ⟨fun settled c among => ?_, fun revealed => ?_⟩
  · rw [Bool.eq_false_iff]
    intro concealed
    obtain ⟨d, member, capital⟩ := exists_capital_of_conceals folds strips among concealed
    exact capital (small_of_mem_second folds strips (settled.symm ▸ member))
  · exact preprocess_of_small folds strips fun d => small_of_mem_preprocess folds strips revealed

end Both

theorem foldCase_foldCase {lowercase : Bool} : foldCase lowercase (foldCase lowercase text) = foldCase lowercase text := by
  cases lowercase with
  | false => rfl
  | true => exact lowercase_of_small fun c => small_of_mem_lowercase

theorem settles_of_either (either : normalizer.lowercase = false ∨ normalizer.stripAccents = none) :
    normalizer.preprocess (normalizer.preprocess text) = normalizer.preprocess text := by
  unfold preprocess
  rcases either with unfolded | unstripped
  · rw [unfolded]
    cases normalizer.stripAccents with
    | none => rfl
    | some mode => exact Text.AccentStripping.strip_strip
  · rw [unstripped]
    exact foldCase_foldCase

theorem either_or_both (normalizer : Normalizer) :
    (normalizer.lowercase = false ∨ normalizer.stripAccents = none) ∨
      normalizer.lowercase = true ∧ ∃ mode, normalizer.stripAccents = some mode := by
  cases normalizer.lowercase with
  | false => exact .inl (.inl rfl)
  | true =>
    cases normalizer.stripAccents with
    | none => exact .inl (.inr rfl)
    | some mode => exact .inr ⟨rfl, mode, rfl⟩

theorem settles_iff : normalizer.preprocess (normalizer.preprocess text) = normalizer.preprocess text ↔
    ∀ c ∈ text.toList, normalizer.conceals c = false := by
  rcases normalizer.either_or_both with either | ⟨folds, mode, strips⟩
  · exact iff_of_true (settles_of_either either) fun c _ => conceals_eq_false either
  · exact settles_iff_of_both folds strips

theorem second_pass_settles : normalizer.preprocess (normalizer.preprocess (normalizer.preprocess text)) =
    normalizer.preprocess (normalizer.preprocess text) := by
  rcases normalizer.either_or_both with either | ⟨folds, mode, strips⟩
  · exact settles_of_either either
  · exact preprocess_of_small folds strips fun d => small_of_mem_second folds strips

-- One pass brings a text into its normal form unless there are capitals concealed in it, and two passes always do.
-- Where one is enough, it makes no difference for the terms whether it has been made before.
theorem preprocess_settles (normalizer : Normalizer) (text : String) :
    (normalizer.preprocess (normalizer.preprocess text) = normalizer.preprocess text ↔
      ∀ c ∈ text.toList, normalizer.conceals c = false) ∧
    (normalizer.lowercase = false ∨ normalizer.stripAccents = none →
      normalizer.preprocess (normalizer.preprocess text) = normalizer.preprocess text) ∧
    normalizer.preprocess (normalizer.preprocess (normalizer.preprocess text)) =
      normalizer.preprocess (normalizer.preprocess text) ∧
    ((∀ c ∈ text.toList, normalizer.conceals c = false) → ∀ (analysis : Analysis) (vocabulary : Option Vocabulary),
      analysis.terms normalizer vocabulary (normalizer.preprocess text) =
        analysis.terms normalizer vocabulary text) :=
  ⟨settles_iff, settles_of_either, second_pass_settles,
    fun revealed _ _ => Analysis.terms_of_preprocess (settles_iff.mpr revealed)⟩

def stripping (mode : Text.AccentStripping) : Normalizer :=
  (ofConfig { Config.default with stripAccents := some mode }).1

theorem capitals_settle : (stripping .unicode).preprocess "CAFÉ" = "cafe" ∧
    (stripping .unicode).preprocess "cafe" = "cafe" ∧
    ∀ (analysis : Analysis) (vocabulary : Option Vocabulary),
      analysis.terms (stripping .unicode) vocabulary "cafe" = analysis.terms (stripping .unicode) vocabulary "CAFÉ" := by
  have once : (stripping .unicode).preprocess "CAFÉ" = "cafe" := by decide +kernel
  have none : "CAFÉ".toList.any (stripping .unicode).conceals = false := by decide +kernel
  have revealed : ∀ c ∈ "CAFÉ".toList, (stripping .unicode).conceals c = false :=
    fun c among => Bool.eq_false_iff.mpr (List.any_eq_false.mp none c among)
  obtain ⟨settled, _, _, sameTerms⟩ := preprocess_settles (stripping .unicode) "CAFÉ"
  have twice := settled.mpr revealed
  rw [once] at twice sameTerms
  exact ⟨once, twice, sameTerms revealed⟩

-- With both steps, the trade mark sign needs two passes, and its term is another one after the first of them.
theorem trade_mark_unsettled :
    ((stripping .unicode).preprocess "™" = "TM" ∧ (stripping .unicode).preprocess "TM" = "tm") ∧
    ((stripping .ascii).preprocess "™" = "TM" ∧ (stripping .ascii).preprocess "TM" = "tm") ∧
    (∃ analysis, Analysis.ofConfig Config.default = .ok analysis ∧
      analysis.terms (stripping .unicode) none "™" = .ok ["TM"] ∧
      analysis.terms (stripping .unicode) none ((stripping .unicode).preprocess "™") = .ok ["tm"]) ∧
    ¬∀ (normalizer : Normalizer) (text : String),
      normalizer.preprocess (normalizer.preprocess text) = normalizer.preprocess text := by
  have once : (stripping .unicode).preprocess "™" = "TM" := by decide +kernel
  have twice : (stripping .unicode).preprocess "TM" = "tm" := by decide +kernel
  refine ⟨⟨once, twice⟩, by decide +kernel, ⟨_, rfl, by decide +kernel, ?_⟩, fun settles => ?_⟩
  · rw [once]
    decide +kernel
  · have settled := settles (stripping .unicode) "™"
    rw [once, twice] at settled
    exact absurd settled (by decide)

end Normalizer

end TextFeatures
