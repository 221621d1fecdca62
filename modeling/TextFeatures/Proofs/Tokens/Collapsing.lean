import TextFeatures.Proofs.Checked.Terms

namespace TextFeatures
open Unicode

namespace Grams

variable {text left right front gram back word : List Char} {least most : Nat}
  {token : Token}

-- The tokens are the pieces of the collapsed text that have one of the sizes, with their places in it.
theorem mem_plain_iff : token ∈ plain least most text ↔ ∃ front gram back,
    collapseBlanks text = front ++ gram ++ back ∧ least ≤ gram.length ∧ gram.length ≤ most ∧
      token = Token.plain (String.ofList gram) front.length (front.length + gram.length) := by
  simp only [plain, sizesUpTo, windowsFrom_eq, List.mem_flatMap, List.mem_map, List.mem_range'_1, List.mem_range]
  constructor
  · rintro ⟨size, bounds, window, ⟨start, within, rfl⟩, rfl⟩
    have front : ((collapseBlanks text).take start).length = start := List.length_take_of_le (by omega)
    have gram : (((collapseBlanks text).drop start).take size).length = size := by
      apply List.length_take_of_le
      rw [List.length_drop]
      omega
    refine ⟨(collapseBlanks text).take start, ((collapseBlanks text).drop start).take size,
      ((collapseBlanks text).drop start).drop size, ?_, ?_, ?_, ?_⟩
    · rw [List.append_assoc, List.take_append_drop, List.take_append_drop]
    · omega
    · omega
    · rw [front, gram, windowToken, Nat.zero_add]
  · rintro ⟨front, gram, back, parts, enough, few, rfl⟩
    have length : (collapseBlanks text).length = front.length + gram.length + back.length := by
      rw [parts, List.length_append, List.length_append]
    refine ⟨gram.length, by omega, (0 + front.length, gram), ⟨front.length, by omega, ?_⟩, ?_⟩
    · rw [parts, List.append_assoc, List.drop_left, List.take_left]
    · rw [windowToken, Nat.zero_add]

-- A word of at least `least` characters, with a gap somewhere in front of it.
def HasShifted (least : Nat) (text : List Char) : Prop :=
  ∃ left word right, text = left ++ word ++ right ∧ HasGap left ∧ least ≤ word.length ∧ ∀ c ∈ word, isBlank c = false

def Unbroken (token : Token) : Prop := ∀ c ∈ token.text.toList, isBlank c = false

def InPlace (text : List Char) (token : Token) : Prop :=
  token.text.toList = (text.take token.stop).drop token.start

-- by the characters of the token, and not by all that there are
instance : Decidable (Unbroken token) := List.decidableBAll (fun c => isBlank c = false) token.text.toList

instance : Decidable (InPlace text token) :=
  inferInstanceAs (Decidable (token.text.toList = (text.take token.stop).drop token.start))

theorem inPlace_plain (start : Nat) : InPlace text (Token.plain (String.ofList gram) start (start + gram.length)) ↔
    gram = (text.drop start).take gram.length := by
  rw [InPlace, Token.plain, String.toList_ofList, List.drop_take, Nat.add_sub_cancel_left]

theorem reaches_into (nonempty : word ≠ []) (unbroken : ∀ c ∈ word, isBlank c = false)
    (same : left ++ (word ++ right) = front ++ (word ++ back)) (longer : front.length < left.length) :
    ∃ c more, left = front ++ c :: more ∧ isBlank c = false := by
  rcases List.append_eq_append_iff.mp same with ⟨more, parts, _⟩ | ⟨more, parts, behind⟩
  · rw [parts, List.length_append] at longer
    omega
  · cases more with
    | nil =>
      rw [parts, List.length_append, List.length_nil] at longer
      omega
    | cons c more =>
      cases word with
      | nil => exact absurd rfl nonempty
      | cons d word =>
        obtain ⟨rfl, _⟩ := List.cons.inj behind
        exact ⟨d, more, parts, unbroken d List.mem_cons_self⟩

-- Where a word is in place wherever it occurs, no gap stands in front of it. Collapsing moves a word behind a gap to
-- the front. What is in the text there is the word once more, with no gap in front of it, and it begins in front of
-- the first, so that the text in front of the first is longer when it is collapsed than it turned out to be.
theorem no_gap_in_front (nonempty : word ≠ []) (unbroken : ∀ c ∈ word, isBlank c = false)
    (inPlace : ∀ left right, text = left ++ word ++ right →
      word = (text.drop (collapseBlanks left).length).take word.length)
    (parts : text = left ++ word ++ right) : ¬HasGap left := by
  induction length : left.length using Nat.strongRecOn generalizing left right with
  | ind count ih =>
    intro gap
    have shorter := length_collapseBlanks_lt gap
    have moved := inPlace left right parts
    generalize place : (collapseBlanks left).length = start at shorter moved
    have again : text = text.take start ++ word ++ (text.drop start).drop word.length :=
      calc text = text.take start ++ ((text.drop start).take word.length ++ (text.drop start).drop word.length) := by
            rw [List.take_append_drop, List.take_append_drop]
        _ = text.take start ++ word ++ (text.drop start).drop word.length := by rw [← moved, List.append_assoc]
    have starts : (text.take start).length = start := by
      apply List.length_take_of_le
      rw [parts, List.length_append, List.length_append]
      omega
    have noGap : ¬HasGap (text.take start) := ih start (by omega) again starts
    have same : left ++ (word ++ right) = text.take start ++ (word ++ (text.drop start).drop word.length) := by
      rw [← List.append_assoc, ← List.append_assoc, ← parts, ← again]
    obtain ⟨c, more, longer, here⟩ := reaches_into nonempty unbroken same (by omega)
    rw [longer, collapseBlanks_cut here, collapseBlanks_of_no_gap noGap, List.length_append, starts,
      List.length_cons] at place
    omega

theorem not_hasShifted_of_inPlace (positive : 0 < least) (range : least ≤ most)
    (inPlace : ∀ token ∈ plain least most text, Unbroken token → InPlace text token) : ¬HasShifted least text := by
  rintro ⟨left, word, right, parts, gap, enough, unbroken⟩
  have first : (word.take least).length = least := List.length_take_of_le enough
  have nonempty : word.take least ≠ [] := List.length_pos_iff.mp (Nat.lt_of_lt_of_eq positive first.symm)
  have firstUnbroken : ∀ c ∈ word.take least, isBlank c = false := by
    intro c member
    exact unbroken c (List.mem_of_mem_take member)
  have firstParts : text = left ++ word.take least ++ (word.drop least ++ right) := by
    rw [parts, List.append_assoc, List.append_assoc, ← List.append_assoc (word.take least), List.take_append_drop]
  refine no_gap_in_front nonempty firstUnbroken ?_ firstParts gap
  intro before behind around
  have collapsed : collapseBlanks text = collapseBlanks before ++ word.take least ++ collapseBlanks behind := by
    rw [around, collapseBlanks_around nonempty firstUnbroken]
  have member := mem_plain_iff.mpr ⟨_, _, _, collapsed, Nat.le_of_eq first.symm, first ▸ range, rfl⟩
  apply (inPlace_plain _).mp
  apply inPlace _ member
  intro c among
  rw [Token.plain, String.toList_ofList] at among
  exact firstUnbroken c among

theorem inPlace_of_not_hasShifted (positive : 0 < least) (unshifted : ¬HasShifted least text)
    (member : token ∈ plain least most text) (unbroken : Unbroken token) : InPlace text token := by
  obtain ⟨front, gram, back, collapsed, enough, few, rfl⟩ := mem_plain_iff.mp member
  rw [Unbroken, Token.plain, String.toList_ofList] at unbroken
  have nonempty : gram ≠ [] := List.length_pos_iff.mp (Nat.lt_of_lt_of_le positive enough)
  obtain ⟨left, right, parts, before⟩ := exists_around nonempty unbroken collapsed
  have noGap : ¬HasGap left := by
    intro gap
    exact unshifted ⟨left, gram, right, parts, gap, enough, unbroken⟩
  rw [collapseBlanks_of_no_gap noGap] at before
  rw [inPlace_plain, parts, before, List.append_assoc, List.drop_left, List.take_left]

-- Every token is inside the text, and one without blanks is in it behind a text that collapses to as many characters
-- as its start says.
theorem placed_of_mem_plain (positive : 0 < least) (member : token ∈ plain least most text) :
    token.start < token.stop ∧ token.stop ≤ text.length ∧ (Unbroken token → ∃ left right,
      text = left ++ token.text.toList ++ right ∧ token.start = (collapseBlanks left).length ∧
        token.stop = token.start + token.text.length) := by
  obtain ⟨front, gram, back, collapsed, enough, few, rfl⟩ := mem_plain_iff.mp member
  have shorter : (collapseBlanks text).length ≤ text.length := length_collapseBlanks_le
  rw [collapsed, List.length_append, List.length_append] at shorter
  simp only [Token.plain, Unbroken, String.toList_ofList, String.length_ofList]
  refine ⟨by omega, by omega, ?_⟩
  intro unbroken
  have nonempty : gram ≠ [] := List.length_pos_iff.mp (Nat.lt_of_lt_of_le positive enough)
  obtain ⟨left, right, parts, before⟩ := exists_around nonempty unbroken collapsed
  refine ⟨left, right, parts, ?_, trivial⟩
  rw [before]

end Grams

-- The grams of a text are looked up in the text with its blanks collapsed, and their spans are spans of that text. They
-- are spans of the text itself exactly if no word that is long enough for a gram stands behind a gap.
theorem GramSizes.grams_in_place_iff {least most : Nat} (positive : 0 < least) (range : least ≤ most) :
    ∃ sizes, GramSizes.ofRange least most false = .ok sizes ∧ ∀ text : String,
      Checked.gramTokens sizes text = .ok (sizes.tokens text) ∧
      (∀ token ∈ sizes.tokens text, token.start < token.stop ∧ token.stop ≤ text.length ∧
        (Grams.Unbroken token → ∃ left right, text.toList = left ++ token.text.toList ++ right ∧
          token.start = (Grams.collapseBlanks left).length ∧ token.stop = token.start + token.text.length)) ∧
      ((∀ token ∈ sizes.tokens text, Grams.Unbroken token → Grams.InPlace text.toList token) ↔
        ¬Grams.HasShifted least text.toList) := by
  refine ⟨⟨least, most, false⟩, ?_, ?_⟩
  · rw [GramSizes.ofRange, if_neg (Nat.pos_iff_ne_zero.mp positive), if_neg (Nat.not_lt.mpr range)]
  · intro text
    refine ⟨Checked.gramTokens_eq, ?_, ?_, ?_⟩
    · intro token member
      rw [← String.length_toList]
      exact Grams.placed_of_mem_plain positive member
    · intro inPlace
      exact Grams.not_hasShifted_of_inPlace positive range inPlace
    · intro unshifted token member unbroken
      exact Grams.inPlace_of_not_hasShifted positive unshifted member unbroken

-- The gap is in front of a word of one character, and grams have two or three.
theorem GramSizes.letters_in_place :
    GramSizes.ofRange 2 3 false = .ok ⟨2, 3, false⟩ ∧
      Token.plain "cd" 3 5 ∈ (⟨2, 3, false⟩ : GramSizes).tokens "ab cd  e" ∧
      Grams.HasGap "ab cd  e".toList ∧ ¬Grams.HasShifted 2 "ab cd  e".toList := by
  have made : GramSizes.ofRange 2 3 false = .ok ⟨2, 3, false⟩ := rfl
  obtain ⟨sizes, same, grams⟩ := GramSizes.grams_in_place_iff (by decide : 0 < 2) (by decide : 2 ≤ 3)
  obtain rfl := Except.ok.inj (made.symm.trans same)
  have gap : [' ', ' '] <:+: "ab cd  e".toList := ⟨"ab cd".toList, "e".toList, by decide +kernel⟩
  refine ⟨made, by decide +kernel, ⟨' ', ' ', rfl, rfl, gap⟩, (grams "ab cd  e").2.2.mp ?_⟩
  decide +kernel

-- The second letter is the fourth character, and its gram says that it is the third.
theorem GramSizes.letter_moved :
    GramSizes.ofRange 1 1 false = .ok ⟨1, 1, false⟩ ∧
      Token.plain "b" 2 3 ∈ (⟨1, 1, false⟩ : GramSizes).tokens "a  b" ∧
      Grams.Unbroken (Token.plain "b" 2 3) ∧ ¬Grams.InPlace "a  b".toList (Token.plain "b" 2 3) := by
  refine ⟨rfl, ?_⟩
  decide +kernel

end TextFeatures
