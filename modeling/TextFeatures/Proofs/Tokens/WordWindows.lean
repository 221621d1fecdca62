import Mathlib.Algebra.BigOperators.Intervals
import TextFeatures.Proofs.Checked.GramLoops
import TextFeatures.Proofs.Tokens.WordGrams

namespace TextFeatures

variable {largest least most size last : Nat} {word : String} {words : List String}

-- The rows of `size` words next to each other, by the place where they start.
def neighbours (size : Nat) (words : List String) : List (List String) :=
  (List.range (words.length + 1 - size)).map fun start => (words.drop start).take size

def gramsBySize (least most : Nat) (words : List String) : List String :=
  (List.range' least (min most words.length + 1 - least)).flatMap fun size => (neighbours size words).map joined

theorem neighbours_cons (fits : size ≤ (word :: words).length) :
    neighbours size (word :: words) = (word :: words).take size :: neighbours size words := by
  rw [List.length_cons] at fits
  have count : (word :: words).length + 1 - size = (words.length + 1 - size) + 1 := by
    rw [List.length_cons]
    omega
  rw [neighbours, count, List.range_succ_eq_map, List.map_cons, List.map_map]
  rfl

theorem neighbours_of_short (short : words.length < size) : neighbours size words = [] := by
  have none : words.length + 1 - size = 0 := by omega
  rw [neighbours, none]
  rfl

theorem wordWindows_eq (positive : 0 < size) : wordWindows size words = neighbours size words := by
  induction words with
  | nil => rw [neighbours_of_short positive, wordWindows]
  | cons word rest ih =>
    by_cases fits : size ≤ (word :: rest).length
    · rw [wordWindows_eq_cons fits, neighbours_cons fits, ih]
    · have short : (word :: rest).length < size := Nat.lt_of_not_le fits
      rw [wordWindows_eq_nil short, neighbours_of_short short]

theorem wordGramsOfSizes_range' (positive : 0 < least) {count : Nat} :
    wordGramsOfSizes (List.range' least count) words =
      (List.range' least count).flatMap fun size => (neighbours size words).map joined := by
  refine List.flatMap_congr fun size member => ?_
  rw [List.mem_range'_1] at member
  rw [wordWindows_eq (by omega)]

theorem joined_neighbours_one : (neighbours 1 words).map joined = words := by
  rw [← wordWindows_eq Nat.one_pos, joined_wordWindows_one]

theorem gramsBySize_of_short (short : words.length < least) : gramsBySize least most words = [] := by
  have none : min most words.length + 1 - least = 0 := by omega
  rw [gramsBySize, none]
  rfl

theorem gramsBySize_cons (range : least ≤ most) : gramsBySize least most words =
    (neighbours least words).map joined ++ gramsBySize (least + 1) most words := by
  by_cases fits : least ≤ words.length
  · have count : min most words.length + 1 - least = (min most words.length + 1 - (least + 1)) + 1 := by omega
    rw [gramsBySize, count, List.range'_succ, List.flatMap_cons]
    rfl
  · rw [gramsBySize_of_short (by omega), gramsBySize_of_short (by omega), neighbours_of_short (by omega)]
    rfl

theorem gramsBySize_one (range : 1 ≤ most) : gramsBySize 1 most words = words ++ gramsBySize 2 most words := by
  rw [gramsBySize_cons range, joined_neighbours_one]

theorem gramsBySize_beyond (beyond : most < least) : gramsBySize least most words = [] := by
  have none : min most words.length + 1 - least = 0 := by omega
  rw [gramsBySize, none]
  rfl

theorem gramsBySize_one_one : gramsBySize 1 1 words = words := by
  rw [gramsBySize_one (Nat.le_refl 1), gramsBySize_beyond (Nat.lt_succ_self 1), List.append_nil]

theorem length_gramsBySize : (gramsBySize least most words).length =
    ∑ size ∈ Finset.Icc least (min most words.length), (words.length - size + 1) := by
  have counts : ∀ size ∈ List.range' least (min most words.length + 1 - least),
      ((neighbours size words).map joined).length = words.length - size + 1 := by
    intro size member
    rw [List.mem_range'_1] at member
    rw [List.length_map, neighbours, List.length_map, List.length_range]
    omega
  rw [gramsBySize, List.length_flatMap, List.map_congr_left counts, Nat.Icc_eq_range']
  rfl

namespace Checked

-- A round for each size up to the last one, from which there is no counting on.
def gramRounds (largest : Nat) (words : List String) (last size : Nat) : Except Stop (List String) := do
  if size ≤ last then
    let found ← windows size words
    if size = last then return found.map joined
    else
      let _ ← plus largest size 1
      let later ← gramRounds largest words last (size + 1)
      return found.map joined ++ later
  else return []
termination_by last - size

-- Sizes from one on begin with the words themselves, and sizes up to one end with them.
def loopedGrams (largest least most : Nat) (words : List String) : Except Stop (List String) := do
  if most = 1 then return words
  else if least = 1 then
    let second ← plus largest least 1
    let later ← gramRounds largest words (min most words.length) second
    return words ++ later
  else gramRounds largest words (min most words.length) least

theorem gramRounds_eq (positive : 0 < size) (small : last ≤ largest) : gramRounds largest words last size =
    .ok ((List.range' size (last + 1 - size)).flatMap fun size => (neighbours size words).map joined) := by
  induction left : last + 1 - size generalizing size with
  | zero =>
    unfold gramRounds
    rw [if_neg (by omega)]
    rfl
  | succ more ih =>
    have found : windows size words = .ok (neighbours size words) := by
      rw [windows_eq positive, wordWindows_eq positive]
    unfold gramRounds
    rw [if_pos (by omega), found, ok_bind, List.range'_succ, List.flatMap_cons]
    by_cases done : size = last
    · obtain rfl : more = 0 := by omega
      rw [if_pos done, List.range'_zero, List.flatMap_nil, List.append_nil]
      rfl
    · rw [if_neg done, plus_eq_ok (by omega), ok_bind, ih (Nat.succ_pos size) (by omega)]
      rfl

theorem loopedGrams_eq (positive : 0 < least) (range : least ≤ most) (small : most ≤ largest) :
    loopedGrams largest least most words = .ok (gramsBySize least most words) := by
  have short : min most words.length ≤ largest := by omega
  unfold loopedGrams
  by_cases single : most = 1
  · obtain rfl : least = 1 := by omega
    subst single
    rw [if_pos rfl, gramsBySize_one_one]
    rfl
  · rw [if_neg single]
    by_cases first : least = 1
    · subst first
      rw [if_pos rfl, plus_eq_ok (by omega), ok_bind, gramRounds_eq Nat.two_pos short, gramsBySize_one range]
      rfl
    · rw [if_neg first, gramRounds_eq positive short]
      rfl

end Checked

-- The grams of words are all their neighbours in a row, by size and place, whichever way they are come by.
theorem word_grams_by_size (positive : 0 < least) (range : least ≤ most) (small : most ≤ largest)
    (words : List String) :
    wordGrams least most words = .ok (gramsBySize least most words) ∧
      Checked.loopedGrams largest least most words = .ok (gramsBySize least most words) ∧
      (most = 1 → gramsBySize least most words = words) ∧
      (least = 1 → gramsBySize least most words = words ++ gramsBySize 2 most words) ∧
      (words.length < least → gramsBySize least most words = []) ∧
      (gramsBySize least most words).length =
        ∑ size ∈ Finset.Icc least (min most words.length), (words.length - size + 1) := by
  refine ⟨?_, Checked.loopedGrams_eq positive range small, ?_, ?_, gramsBySize_of_short, length_gramsBySize⟩
  · rw [wordGrams_eq_ok (Nat.ne_of_gt positive) range, gramsOf]
    split
    · rename_i single
      obtain rfl : least = 1 := by omega
      rw [single, gramsBySize_one_one]
    · rw [← wordGramsOfSizes_min, wordGramsOfSizes_range' positive]
      rfl
  · rintro rfl
    obtain rfl : least = 1 := by omega
    exact gramsBySize_one_one
  · rintro rfl
    exact gramsBySize_one range

-- The largest size there can be, on a machine that counts with 64 bits.
theorem word_grams_unbounded :
    wordGrams 1 (2 ^ 64 - 1) ["a", "b", "c"] = .ok ["a", "b", "c", "a b", "b c", "a b c"] ∧
      Checked.loopedGrams (2 ^ 64 - 1) 1 (2 ^ 64 - 1) ["a", "b", "c"] =
        .ok ["a", "b", "c", "a b", "b c", "a b c"] := by
  obtain ⟨found, looped, _⟩ := word_grams_by_size (by decide : 0 < 1) (by decide : 1 ≤ 2 ^ 64 - 1)
    (Nat.le_refl (2 ^ 64 - 1)) ["a", "b", "c"]
  have same : gramsBySize 1 (2 ^ 64 - 1) ["a", "b", "c"] = ["a", "b", "c", "a b", "b c", "a b c"] := by decide +kernel
  exact ⟨same ▸ found, same ▸ looped⟩

end TextFeatures
