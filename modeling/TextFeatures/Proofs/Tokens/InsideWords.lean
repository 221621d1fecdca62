import TextFeatures.Proofs.Checked.GramLoops

namespace TextFeatures

namespace Grams

variable {least most length count size : Nat} {padded gram : List Char} {run : Nat × List Char}

def inSpaces (word : List Char) : List Char := ' ' :: word ++ [' ']

-- The windows of each size below that of the whole, and the whole itself if the sizes go so far.
def ofWord (least most : Nat) (padded : List Char) : List (List Char) :=
  (sizesUpTo least (min most (padded.length - 1))).flatMap (fun size => windows size padded) ++
    if padded.length ≤ most then [padded] else []

-- All grams of a word have the span of the word.
def wordTokens (least most : Nat) (run : Nat × List Char) : List Token :=
  (ofWord least most (inSpaces run.2)).map fun gram =>
    Token.plain (String.ofList gram) run.1 (run.1 + run.2.length)

theorem length_inSpaces (word : List Char) : (inSpaces word).length = word.length + 2 := by simp [inSpaces]

theorem lt_of_mem_sizesUpTo (nonempty : 0 < length) (member : size ∈ sizesUpTo least (min most (length - 1))) :
    size < length := by
  rw [sizesUpTo, List.mem_range'_1] at member
  omega

theorem sizesUpTo_eq_nil (past : most < least) : sizesUpTo least most = [] := by
  rw [sizesUpTo, List.range'_eq_nil_iff]
  omega

theorem sizesUpTo_eq_cons (within : least ≤ most) : sizesUpTo least most = least :: sizesUpTo (least + 1) most := by
  rw [sizesUpTo, sizesUpTo, ← List.range'_succ]
  congr 1
  omega

-- A word is looked at with the sizes below its own, and with one more if the range goes that far.
theorem sizesInside_eq (nonempty : 0 < length) (range : least ≤ most) :
    sizesInside length least (most + 1 - least) =
      sizesUpTo least (min most (length - 1)) ++ if length ≤ most then [max least length] else [] := by
  obtain ⟨count, total⟩ : ∃ count, most + 1 = least + count := Nat.exists_eq_add_of_le (by omega)
  have sizes : most + 1 - least = count := by omega
  -- The sizes may run out, and then nothing is left of the range but this.
  have reaches : length ≤ most → least ≤ most := fun _ => range
  clear range
  rw [sizes]
  induction count generalizing least with
  | zero =>
    rw [sizesUpTo_eq_nil (by omega), if_neg (by omega)]
    rfl
  | succ count ih =>
    by_cases long : length ≤ least
    · rw [sizesInside, if_pos long, sizesUpTo_eq_nil (by omega), if_pos (by omega), Nat.max_eq_left long]
      rfl
    · have greater : max least length = max (least + 1) length := by omega
      have first : sizesUpTo least (min most (length - 1)) = least :: sizesUpTo (least + 1) (min most (length - 1)) :=
        sizesUpTo_eq_cons (by omega)
      rw [sizesInside, if_neg long, ih (by omega) (by omega) (by omega), greater, first]
      rfl

theorem inSpaces_nonempty (word : List Char) : 0 < (inSpaces word).length := by
  rw [length_inSpaces]
  exact Nat.succ_pos _

theorem ofRun_eq (range : least ≤ most) : ofRun least most run = wordTokens least most run := by
  have nonempty := inSpaces_nonempty run.2
  have shorter : (sizesUpTo least (min most ((inSpaces run.2).length - 1))).flatMap
        (fun size => ofPadded size (inSpaces run.2)) =
      (sizesUpTo least (min most ((inSpaces run.2).length - 1))).flatMap
        (fun size => windows size (inSpaces run.2)) := by
    refine List.flatMap_congr fun size member => ?_
    exact ofPadded_eq_windows (lt_of_mem_sizesUpTo nonempty member)
  have sizes := sizesInside_eq nonempty range
  rw [ofRun, ← List.map_flatMap, wordTokens]
  congr 1
  change (sizesInside (inSpaces run.2).length least _).flatMap (fun size => ofPadded size (inSpaces run.2)) = _
  rw [sizes, List.flatMap_append, shorter, ofWord]
  split
  · rw [List.flatMap_singleton, ofPadded_eq_word (Nat.le_max_right _ _)]
  · rfl

theorem count_ofWord (nonempty : 0 < padded.length) :
    (ofWord least most padded).count padded = if padded.length ≤ most then 1 else 0 := by
  have absent : padded ∉ (sizesUpTo least (min most (padded.length - 1))).flatMap fun size => windows size padded := by
    intro member
    obtain ⟨size, among, window⟩ := List.mem_flatMap.mp member
    have shorter := lt_of_mem_sizesUpTo nonempty among
    rw [← length_of_mem_windows window] at shorter
    exact Nat.lt_irrefl _ shorter
  rw [ofWord, List.count_append, List.count_eq_zero_of_not_mem absent, Nat.zero_add]
  split
  · exact List.count_singleton_self
  · rfl

theorem countP_sizesInside (nonempty : 0 < length) (range : least ≤ most) :
    (sizesInside length least (most + 1 - least)).countP (length ≤ ·) = if length ≤ most then 1 else 0 := by
  have below : (sizesUpTo least (min most (length - 1))).countP (length ≤ ·) = 0 := by
    rw [List.countP_eq_zero]
    intro size member
    have less := lt_of_mem_sizesUpTo nonempty member
    simpa using less
  rw [sizesInside_eq nonempty range, List.countP_append, below, Nat.zero_add]
  split
  · rw [List.countP_singleton, if_pos (decide_eq_true (Nat.le_max_right _ _))]
  · rfl

end Grams

-- The grams inside the words of a text: for each word in its spaces, what is shorter than it by size and place, and the
-- word itself once if the sizes go so far. However far they go, the loop over the sizes makes one round at most that is
-- not shorter than the word, and no sum in it goes above the largest number, as long as the sizes do not.
theorem GramSizes.grams_inside_words {least most : Nat} (positive : 0 < least) (range : least ≤ most) :
    ∃ sizes, GramSizes.ofRange least most true = .ok sizes ∧ ∀ text : String,
      sizes.tokens text = (Words.runs text.toList).flatMap (Grams.wordTokens least most) ∧
      (∀ run, run ∈ Words.runs text.toList ↔
        ∃ left right, Text.MaximalRun Words.isUnbroken false text.toList left run.2 right ∧ run.1 = left.length) ∧
      (Words.runs text.toList).Pairwise (fun one next => one.1 + one.2.length < next.1) ∧
      (∀ word, (Grams.ofWord least most (Grams.inSpaces word)).count (Grams.inSpaces word) =
        if word.length + 2 ≤ most then 1 else 0) ∧
      ∀ largest, most ≤ largest → text.length + 2 ≤ largest →
        Checked.scannedGrams largest least most text.toList = .ok (sizes.tokens text) ∧
        ∀ run ∈ Words.runs text.toList, ∃ done,
          Checked.rounds largest (Grams.inSpaces run.2) (List.range' least (most + 1 - least)) = .ok done ∧
          done.countP (fun round => run.2.length + 2 ≤ round.1) = if run.2.length + 2 ≤ most then 1 else 0 := by
  refine ⟨_, GramSizes.ofRange_eq_ok true positive range, ?_⟩
  intro text
  refine ⟨?_, fun _ => Words.mem_runs_iff, Words.runs_ordered _, ?_, ?_⟩
  · refine List.flatMap_congr fun run _ => ?_
    exact Grams.ofRun_eq range
  · intro word
    rw [Grams.count_ofWord (Grams.inSpaces_nonempty word), Grams.length_inSpaces]
  · intro largest small fits
    rw [← String.length_toList] at fits
    refine ⟨Checked.scannedGrams_eq small range fits, ?_⟩
    intro run among
    obtain ⟨left, right, maximal, _⟩ := Words.mem_runs_iff.mp among
    have within := maximal.within
    have short : (Grams.inSpaces run.2).length ≤ largest := by
      rw [Grams.length_inSpaces]
      omega
    refine ⟨_, Checked.rounds_eq short (by omega), ?_⟩
    have once := Grams.countP_sizesInside (Grams.inSpaces_nonempty run.2) range
    rw [List.countP_map, ← Grams.length_inSpaces]
    exact once

-- The largest size is the largest number of 64 bits.
theorem GramSizes.grams_inside_ab :
    GramSizes.ofRange 2 18446744073709551615 true = .ok ⟨2, 18446744073709551615, true⟩ ∧
      textsOf ((⟨2, 18446744073709551615, true⟩ : GramSizes).tokens "ab") =
        [" a", "ab", "b ", " ab", "ab ", " ab "] ∧
      Checked.scannedGrams 18446744073709551615 2 18446744073709551615 "ab".toList =
        .ok ((⟨2, 18446744073709551615, true⟩ : GramSizes).tokens "ab") := by
  have made : GramSizes.ofRange 2 18446744073709551615 true = .ok ⟨2, 18446744073709551615, true⟩ := rfl
  obtain ⟨sizes, same, grams⟩ :=
    GramSizes.grams_inside_words (by decide : 0 < 2) (by decide : 2 ≤ 18446744073709551615)
  obtain rfl := Except.ok.inj (made.symm.trans same)
  obtain ⟨tokens, _, _, _, loops⟩ := grams "ab"
  refine ⟨made, ?_, (loops 18446744073709551615 (Nat.le_refl _) (by decide)).1⟩
  rw [tokens]
  decide +kernel

end TextFeatures
