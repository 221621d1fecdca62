import TextFeatures.Proofs.Text.Runs
import TextFeatures.Proofs.Unicode.Categories
import TextFeatures.Unicode.Lowercase

namespace TextFeatures.Unicode
open Words Text

variable {c : Char} {text word left before rest : List Char}

def isPiece (word : List Char) : Bool := !word.isEmpty && word.all isUnbroken

theorem isPiece_iff : isPiece word = true ↔ word ≠ [] ∧ ∀ c ∈ word, isUnbroken c = true := by
  rw [isPiece, Bool.and_eq_true, Bool.not_eq_true', List.isEmpty_eq_false_iff, List.all_eq_true]

-- Blanks have no lowercase form, and none is in one.
set_option maxRecDepth 20000 in
theorem lowercaseTable_unbroken : blankBits &&& lowercaseTable.bits = 0 ∧
    ∀ row ∈ lowercaseTable, ∀ entry ∈ row.entries, isPiece entry.value = true := by
  refine Reading.start (P := fun table => blankBits &&& table.bits = 0 ∧
    ∀ row ∈ table, ∀ entry ∈ row.entries, isPiece entry.value = true) List.flatten_singleton ?_
  unfold lowercaseTable
  repeat with_reducible refine .mapping ?_
  exact .next (.done (by decide +kernel))

-- A blank is no letter, nor does lowercasing look past it or change it.
structure Separates (c : Char) : Prop where
  notWord : isWord c = false
  notCased : isCased .v17 c = false
  notIgnored : isCaseIgnorable .v17 c = false
  kept : lowercaseChar c = [c]

-- The sets by which characters are words, cased or looked past besides their categories.
def wordSets : List CodeSet :=
  [otherAlphabetic, otherLowercase, laterLowercase, otherUppercase, otherCaseIgnorable]

theorem blanks_in_no_set : blankBits &&& Table.bits wordSets.flatten = 0 := by
  refine Reading.start (P := fun sets => blankBits &&& Table.bits sets = 0) rfl ?_
  unfold wordSets otherAlphabetic otherLowercase laterLowercase otherUppercase otherCaseIgnorable setRow
  repeat with_reducible first | refine .row ?_ | refine .next ?_
  exact .done (by decide +kernel)

theorem contains_of_blank {set : CodeSet} (blank : isBlank c = true) (among : set ∈ wordSets) :
    set.contains c = false :=
  contains_eq_false (not_testBit_of_apart blanks_in_no_set (testBit_blankBits blank))
    fun _ => List.mem_flatten_of_mem among

theorem blank_of_isAscii (ascii : isAscii c = true) :
    isBlank c = true → isAsciiWord c = false ∧ isAsciiLetter c = false ∧ c.toLower = c :=
  ascii_induction (P := fun c => isBlank c = true → isAsciiWord c = false ∧ isAsciiLetter c = false ∧ c.toLower = c)
    (by decide +kernel) ascii

theorem isJoinControl_of_blank (blank : isBlank c = true) : isJoinControl c = false := by
  have listed := mem_blankCodes blank
  simp only [blankCodes, List.mem_cons, List.not_mem_nil, or_false] at listed
  simp only [isJoinControl, Bool.or_eq_false_iff, decide_eq_false_iff_not]
  omega

theorem lowercaseChar_of_blank (blank : isBlank c = true) : lowercaseChar c = [c] := by
  rw [lowercaseChar]
  split
  · rw [(blank_of_isAscii ‹_› blank).2.2]
  · rw [find?_eq_none_of_bits (not_testBit_of_apart lowercaseTable_unbroken.1 (testBit_blankBits blank))]
    rfl

theorem separates (blank : isBlank c = true) : Separates c := by
  refine ⟨?_, ?_, ?_, lowercaseChar_of_blank blank⟩
  · rw [isWord]
    split
    · exact (blank_of_isAscii ‹_› blank).1
    · rw [hasCategory_of_blank blank (by decide), contains_of_blank blank (by simp [wordSets]),
        isJoinControl_of_blank blank]
      rfl
  · rw [isCased]
    split
    · exact (blank_of_isAscii ‹_› blank).2.1
    · rename_i other
      have lacks (category : GeneralCategory) (word : isWordCategory category = true) :
          hasCategory .v17 [category] c = false := hasCategory_of_blank blank (by simp [word])
      rw [isLowercase, isUppercase, if_neg other, if_neg other, inSet, lacks .Lt rfl, lacks .Ll rfl, lacks .Lu rfl,
        contains_of_blank blank (by simp [wordSets]), contains_of_blank blank (by simp [wordSets]),
        contains_of_blank blank (by simp [wordSets])]
      rfl
  · rw [isCaseIgnorable, hasCategory_of_blank blank (by decide), contains_of_blank blank (by simp [wordSets])]
    rfl

theorem isUnbroken_of_isWord (word : isWord c = true) : isUnbroken c = true := by
  cases blank : isBlank c with
  | false => rw [isUnbroken, blank, Bool.not_false]
  | true => exact absurd ((separates blank).notWord.symm.trans word) Bool.false_ne_true

theorem isPiece_lowercaseChar (unbroken : isUnbroken c = true) : isPiece (lowercaseChar c) = true := by
  rw [lowercaseChar]
  split
  · rename_i ascii
    exact ascii_induction (P := fun c => isUnbroken c = true → isPiece [c.toLower] = true) (by decide +kernel) ascii
      unbroken
  · cases found : lowercaseTable.find? c.toNat with
    | none => simp [isPiece, unbroken]
    | some value =>
      obtain ⟨row, among, entry, listed, _, rfl⟩ := Table.exists_entry_of_find? found
      exact lowercaseTable_unbroken.2 row among entry listed

-- Whoever looks for a cased character goes no farther than to a blank.
theorem startsCased_append (closes : Closes rest) : startsCased (text ++ rest) = startsCased text := by
  induction text with
  | nil =>
    cases closes with
    | done => rfl
    | blank blank =>
      obtain ⟨_, notCased, notIgnored, _⟩ := separates blank
      simp [startsCased, notCased, notIgnored]
  | cons c others ih =>
    unfold startsCased at ih ⊢
    rw [List.cons_append, List.dropWhile_cons, List.dropWhile_cons]
    cases isCaseIgnorable .v17 c with
    | true => exact ih
    | false => rfl

theorem lowercaseSigma_append (closes : Closes rest) :
    lowercaseSigma before (text ++ rest) = lowercaseSigma before text := by
  rw [lowercaseSigma, lowercaseSigma, startsCased_append closes]

theorem lowercaseAfter_append (closes : Closes rest) : lowercaseAfter before (left ++ rest) =
    lowercaseAfter before left ++ lowercaseAfter (left.reverse ++ before) rest := by
  induction left generalizing before with
  | nil => rfl
  | cons c others ih =>
    rw [List.cons_append, lowercaseAfter, lowercaseAfter, ih, lowercaseSigma_append closes, List.reverse_cons,
      List.append_assoc, List.append_assoc, List.singleton_append]

-- What is before a blank makes no difference behind it.
theorem lowercaseAfter_closed (closes : Closes before) :
    lowercaseAfter (left ++ before) text = lowercaseAfter left text := by
  induction text generalizing left with
  | nil => rfl
  | cons c others ih =>
    rw [lowercaseAfter, lowercaseAfter, ← List.cons_append, ih, lowercaseSigma, lowercaseSigma,
      startsCased_append closes]

theorem lowercaseAfter_cut (blank : isBlank c = true) :
    lowercaseAfter [] (word ++ c :: rest) = lowercaseAfter [] word ++ c :: lowercaseAfter [] rest := by
  have other : c ≠ 'Σ' := by
    rintro rfl
    revert blank
    decide
  have behind : lowercaseAfter ([] ++ c :: (word.reverse ++ [])) rest = lowercaseAfter [] rest :=
    lowercaseAfter_closed (.blank blank)
  rw [lowercaseAfter_append (.blank blank), lowercaseAfter, if_neg other, (separates blank).kept,
    List.singleton_append]
  exact congrArg (lowercaseAfter [] word ++ c :: ·) behind

theorem isPiece_append (one : isPiece left = true) (other : ∀ c ∈ rest, isUnbroken c = true) :
    isPiece (left ++ rest) = true := by
  obtain ⟨nonempty, unbroken⟩ := isPiece_iff.mp one
  exact isPiece_iff.mpr ⟨List.append_ne_nil_of_left_ne_nil nonempty _, List.forall_mem_append.mpr ⟨unbroken, other⟩⟩

theorem isPiece_lowercased (unbroken : isUnbroken c = true) :
    isPiece (if c = 'Σ' then [lowercaseSigma before rest] else lowercaseChar c) = true := by
  split
  · rw [lowercaseSigma]
    split <;> decide +kernel
  · exact isPiece_lowercaseChar unbroken

theorem unbroken_lowercaseAfter (unbroken : ∀ c ∈ word, isUnbroken c = true) :
    ∀ c ∈ lowercaseAfter before word, isUnbroken c = true := by
  induction word generalizing before with
  | nil => exact List.forall_mem_nil _
  | cons c others ih =>
    obtain ⟨first, others⟩ := List.forall_mem_cons.mp unbroken
    exact (isPiece_iff.mp (isPiece_append (isPiece_lowercased first) (ih others))).2

theorem lowercaseAfter_ne_nil (unbroken : ∀ c ∈ word, isUnbroken c = true) (nonempty : word ≠ []) :
    lowercaseAfter before word ≠ [] := by
  cases word with
  | nil => exact absurd rfl nonempty
  | cons c others =>
    obtain ⟨first, others⟩ := List.forall_mem_cons.mp unbroken
    exact (isPiece_iff.mp (isPiece_append (isPiece_lowercased first) (unbroken_lowercaseAfter others))).1

-- Lowercasing goes piece by piece, and a piece stays one.
theorem runs_lowercaseAfter :
    runs isUnbroken (lowercaseAfter [] text) = (runs isUnbroken text).map (lowercaseAfter []) := by
  refine runs_of_cut 0 (f := fun _ => lowercaseAfter []) rfl ?_ (fun _ _ _ => rfl) ?_
  · exact fun word nonempty unbroken => ⟨lowercaseAfter_ne_nil unbroken nonempty, unbroken_lowercaseAfter unbroken⟩
  · intro _ word c rest _ out
    exact lowercaseAfter_cut (by simpa [isUnbroken] using out)

end TextFeatures.Unicode
