import TextFeatures.Proofs.Results
import TextFeatures.Tokens.WordGrams

namespace TextFeatures

variable {least most size start : Nat} {word term : String} {words others rest : List String} {sizes : List Nat}
  {pieces : List (List String)} {window : List String}

theorem wordWindows_eq_nil (short : words.length < size) : wordWindows size words = [] := by
  cases words with
  | nil => rfl
  | cons word rest =>
    rw [wordWindows, List.length_take]
    exact if_neg (by omega)

theorem wordWindows_eq_cons (fits : size ≤ (word :: rest).length) :
    wordWindows size (word :: rest) = (word :: rest).take size :: wordWindows size rest := by
  rw [wordWindows, List.length_take]
  exact if_pos (by omega)

theorem of_mem_wordWindows (member : window ∈ wordWindows size words) : window.length = size ∧ window <:+: words := by
  induction words with
  | nil => cases member
  | cons word rest ih =>
    by_cases fits : size ≤ (word :: rest).length
    · rw [wordWindows_eq_cons fits] at member
      rcases List.mem_cons.mp member with rfl | later
      · exact ⟨List.length_take_of_le fits, (List.take_prefix _ _).isInfix⟩
      · obtain ⟨length, within⟩ := ih later
        exact ⟨length, within.trans (List.suffix_cons word rest).isInfix⟩
    · rw [wordWindows_eq_nil (Nat.lt_of_not_le fits)] at member
      cases member

-- No window of a text is lost by what stands around the text.
theorem wordWindows_append_sublist :
    List.Sublist (wordWindows size words ++ wordWindows size others) (wordWindows size (words ++ others)) := by
  induction words with
  | nil => exact .refl _
  | cons word rest ih =>
    have longer : (word :: (rest ++ others)).length = (word :: rest).length + others.length := by
      rw [← List.cons_append, List.length_append]
    by_cases fits : size ≤ (word :: rest).length
    · rw [List.cons_append, wordWindows_eq_cons fits, wordWindows_eq_cons (by omega), ← List.cons_append,
        List.take_append_of_le_length fits]
      exact ih.cons_cons _
    · rw [List.length_cons] at fits
      rw [wordWindows_eq_nil (by omega), List.nil_append] at ih
      rw [wordWindows_eq_nil (by rw [List.length_cons]; omega), List.nil_append, List.cons_append]
      by_cases wider : size ≤ (word :: (rest ++ others)).length
      · rw [wordWindows_eq_cons wider]
        exact ih.cons _
      · rw [wordWindows_eq_nil (by omega)]
        exact List.nil_sublist _

theorem joined_singleton : joined [word] = word := by simp [joined]

theorem joined_wordWindows_one : (wordWindows 1 words).map joined = words := by
  induction words with
  | nil => rfl
  | cons word rest ih =>
    rw [wordWindows_eq_cons (Nat.le_add_left 1 _), List.map_cons, ih]
    exact congrArg (· :: rest) joined_singleton

def gramsOf (least most : Nat) (words : List String) : List String :=
  if most = 1 then words else wordGramsOfSizes (List.range' least (most + 1 - least)) words

theorem of_mem_gramsOf (positive : least ≠ 0) (member : term ∈ gramsOf least most words) :
    term ∈ words ∨ ∃ window, window <:+: words ∧ 2 ≤ window.length ∧ least ≤ window.length ∧ window.length ≤ most ∧
      joined window = term := by
  unfold gramsOf at member
  split at member
  · exact .inl member
  · obtain ⟨size, inRange, among⟩ := List.mem_flatMap.mp member
    obtain ⟨window, there, rfl⟩ := List.mem_map.mp among
    obtain ⟨rfl, within⟩ := of_mem_wordWindows there
    rw [List.mem_range'_1] at inRange
    by_cases several : 2 ≤ window.length
    · exact .inr ⟨window, within, several, inRange.1, by omega, rfl⟩
    · obtain ⟨word, rfl⟩ : ∃ word, window = [word] := List.length_eq_one_iff.mp (by omega)
      rw [joined_singleton]
      exact .inl (within.subset List.mem_cons_self)

theorem wordGramsOfSizes_of_short (short : ∀ size ∈ sizes, words.length < size) :
    wordGramsOfSizes sizes words = [] := by
  rw [wordGramsOfSizes, List.flatMap_eq_nil_iff]
  intro size member
  rw [wordWindows_eq_nil (short size member)]
  rfl

theorem wordGramsOfSizes_min :
    wordGramsOfSizes (List.range' start (min most words.length + 1 - start)) words =
      wordGramsOfSizes (List.range' start (most + 1 - start)) words := by
  obtain ⟨more, total⟩ : ∃ more, most + 1 - start = (min most words.length + 1 - start) + more :=
    Nat.exists_eq_add_of_le (by omega)
  have none : wordGramsOfSizes (List.range' (start + (min most words.length + 1 - start)) more) words = [] := by
    refine wordGramsOfSizes_of_short fun size member => ?_
    rw [List.mem_range'_1] at member
    omega
  unfold wordGramsOfSizes at none ⊢
  rw [total, ← List.range'_append_1, List.flatMap_append, none, List.append_nil]

theorem wordGrams_eq_ok (positive : least ≠ 0) (ordered : least ≤ most) :
    wordGrams least most words = .ok (gramsOf least most words) := by
  unfold wordGrams gramsOf
  by_cases single : most = 1
  · rw [if_pos single, if_pos single]
  · rw [if_neg single, if_neg single]
    by_cases first : least = 1
    · subst first
      obtain ⟨more, rfl⟩ : ∃ more, most = more + 1 := Nat.exists_eq_add_of_le' ordered
      simp only [if_true, wordGramsOfSizes_min]
      have sizes : List.range' 1 (more + 1 + 1 - 1) = 1 :: List.range' 2 (more + 1 + 1 - 2) := rfl
      rw [sizes, wordGramsOfSizes, wordGramsOfSizes, List.flatMap_cons, joined_wordWindows_one]
      rfl
    · simp only [first, if_false, positive, wordGramsOfSizes_min, List.nil_append]

theorem count_wordGramsOfSizes_append :
    (wordGramsOfSizes sizes words).count term + (wordGramsOfSizes sizes others).count term ≤
      (wordGramsOfSizes sizes (words ++ others)).count term := by
  unfold wordGramsOfSizes
  induction sizes with
  | nil => simp
  | cons size more ih =>
    have among : List.Sublist ((wordWindows size words ++ wordWindows size others).map joined)
        ((wordWindows size (words ++ others)).map joined) := wordWindows_append_sublist.map joined
    have ofSize := among.count_le term
    rw [List.map_append, List.count_append] at ofSize
    simp only [List.flatMap_cons, List.count_append]
    omega

theorem count_gramsOf_append : (gramsOf least most words).count term + (gramsOf least most others).count term ≤
    (gramsOf least most (words ++ others)).count term := by
  unfold gramsOf
  split
  · exact Nat.le_of_eq List.count_append.symm
  · exact count_wordGramsOfSizes_append

-- However a text is cut into pieces, each gram of a piece is one of the text.
theorem count_flatMap_gramsOf_le :
    (pieces.flatMap (gramsOf least most)).count term ≤ (gramsOf least most pieces.flatten).count term := by
  induction pieces with
  | nil => exact Nat.zero_le _
  | cons piece more ih =>
    rw [List.flatMap_cons, List.count_append, List.flatten_cons]
    exact Nat.le_trans (Nat.add_le_add_left ih _) count_gramsOf_append

end TextFeatures
