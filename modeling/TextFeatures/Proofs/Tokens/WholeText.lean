import Mathlib.Algebra.BigOperators.Intervals
import TextFeatures.Proofs.Checked.GramLoops
import TextFeatures.Proofs.Tokens.Gaps

namespace TextFeatures

namespace Grams
open Unicode

variable {least most size : Nat} {text : List Char}

def windowTokens (size : Nat) (text : List Char) : List Token :=
  (windows size text).zipIdx.map fun window =>
    Token.plain (String.ofList window.1) window.2 (window.2 + size)

theorem zipIdx_windows : (windows size text).zipIdx =
    (List.range (text.length + 1 - size)).map fun start => ((text.drop start).take size, start) := by
  rw [windows]
  apply List.ext_getElem
  · simp
  · intro place _ _
    simp

theorem map_windowToken : (windowsFrom size 0 text).map (windowToken size) = windowTokens size text := by
  rw [windowTokens, zipIdx_windows, windowsFrom_eq, List.map_map, List.map_map]
  refine List.map_congr_left fun start _ => ?_
  simp only [Function.comp_apply, windowToken, Nat.zero_add]

theorem plain_eq : plain least most text =
    (sizesUpTo least (min most (collapseBlanks text).length)).flatMap fun size =>
      windowTokens size (collapseBlanks text) := by
  simp only [plain, map_windowToken]

theorem length_windowTokens (fits : size ≤ text.length) : (windowTokens size text).length = text.length - size + 1 := by
  rw [windowTokens, List.length_map, List.length_zipIdx, length_windows]
  omega

theorem length_plain : (plain least most text).length =
    ∑ size ∈ Finset.Icc least (min most (collapseBlanks text).length), ((collapseBlanks text).length - size + 1) := by
  have counts : ∀ size ∈ sizesUpTo least (min most (collapseBlanks text).length),
      (windowTokens size (collapseBlanks text)).length = (collapseBlanks text).length - size + 1 := by
    intro size member
    rw [sizesUpTo, List.mem_range'_1] at member
    exact length_windowTokens (by omega)
  rw [plain_eq, List.length_flatMap, List.map_congr_left counts, Nat.Icc_eq_range']
  rfl

theorem plain_collapsed : plain least most (collapseBlanks text) = plain least most text := by
  simp only [plain, collapseBlanks_again]

end Grams

-- The grams of a whole text are all windows of the text with its gaps collapsed, by size and place, and there are no
-- gaps in that text. It has the same grams itself.
theorem GramSizes.grams_are_windows {least most : Nat} (positive : 0 < least) (range : least ≤ most) :
    ∃ sizes, GramSizes.ofRange least most false = .ok sizes ∧ ∀ (text : String) (collapsed : List Char),
      collapsed = (Text.cut Unicode.isBlank text.toList).flatMap Grams.shortened →
        ¬Grams.HasGap collapsed ∧
        (Text.cut Unicode.isBlank collapsed).flatMap Grams.shortened = collapsed ∧
        sizes.tokens text = (List.range' least (min most collapsed.length + 1 - least)).flatMap
          (fun size => Grams.windowTokens size collapsed) ∧
        (sizes.tokens text).length =
          ∑ size ∈ Finset.Icc least (min most collapsed.length), (collapsed.length - size + 1) ∧
        sizes.tokens (String.ofList collapsed) = sizes.tokens text ∧
        Checked.collapsedFrom text.toList 0 = .ok collapsed ∧
        Checked.collapsedGrams least most text.toList = .ok (sizes.tokens text) := by
  refine ⟨_, GramSizes.ofRange_eq_ok false positive range, ?_⟩
  intro text collapsed same
  rw [← Grams.collapseBlanks_eq] at same
  subst same
  refine ⟨Grams.no_gap_collapseBlanks _, ?_, Grams.plain_eq, Grams.length_plain, ?_, Checked.collapsedFrom_eq,
    Checked.collapsedGrams_eq⟩
  · rw [← Grams.collapseBlanks_eq, Grams.collapseBlanks_again]
  · change Grams.plain least most (String.ofList _).toList = Grams.plain least most text.toList
    rw [String.toList_ofList, Grams.plain_collapsed]

theorem GramSizes.grams_of_gapped_letters :
    GramSizes.ofRange 2 9 false = .ok ⟨2, 9, false⟩ ∧
      (⟨2, 9, false⟩ : GramSizes).tokens "a \tb" =
        [Token.plain "a " 0 2, Token.plain " b" 1 3, Token.plain "a b" 0 3] ∧
      (⟨2, 9, false⟩ : GramSizes).tokens "a b" = (⟨2, 9, false⟩ : GramSizes).tokens "a \tb" := by
  have made : GramSizes.ofRange 2 9 false = .ok ⟨2, 9, false⟩ := rfl
  obtain ⟨sizes, same, grams⟩ := GramSizes.grams_are_windows (by decide : 0 < 2) (by decide : 2 ≤ 9)
  obtain rfl := Except.ok.inj (made.symm.trans same)
  have collapsed : "a b".toList = (Text.cut Unicode.isBlank "a \tb".toList).flatMap Grams.shortened := by
    rw [← Grams.collapseBlanks_eq]
    decide +kernel
  obtain ⟨_, _, tokens, _, again, _⟩ := grams "a \tb" "a b".toList collapsed
  refine ⟨made, ?_, ?_⟩
  · rw [tokens]
    decide +kernel
  · rw [String.ofList_toList] at again
    exact again

end TextFeatures
