import TextFeatures.Proofs.Unicode.Lowercase
import TextFeatures.Proofs.Unicode.Tables
import TextFeatures.Unicode.Decomposition

namespace TextFeatures.Unicode

variable {c d small : Char} {code index : Nat} {before text : List Char} {lower decompositions : Table (List Char)}

def asciiCapitals : Nat := spanBits 0x41 0x5b

def hangulSyllables : Nat := spanBits 0xac00 0xd7a4

def hangulLetters : Nat := spanBits 0x1100 0x11c3

noncomputable def capitalBits (lower : Table (List Char)) : Nat := lower.bits ||| asciiCapitals

noncomputable def hasCapital (lower : Table (List Char)) (chars : List Char) : Bool := charBits chars &&& capitalBits lower != 0

-- That there is nothing left to be done to the forms of characters: lowercase has no capitals in it, and neither have
-- the decompositions of lowercase; decompositions are not decomposed any further.
structure FormsApart (lower decompositions : Table (List Char)) : Prop where
  small : lower.valueBits &&& capitalBits lower = 0
  whole : (decompositions.valueBits ||| hangulLetters) &&& (decompositions.bits ||| hangulSyllables) = 0
  plain : lower.valueBits &&& (decompositions.bitsWhere (hasCapital lower) ||| hangulSyllables) = 0

theorem formsApart_iff : FormsApart lower decompositions ↔ lower.valueBits &&& capitalBits lower = 0 ∧
    (decompositions.valueBits ||| hangulLetters) &&& (decompositions.bits ||| hangulSyllables) = 0 ∧
    lower.valueBits &&& (decompositions.bitsWhere (hasCapital lower) ||| hangulSyllables) = 0 :=
  ⟨fun ⟨small, whole, plain⟩ => ⟨small, whole, plain⟩, fun ⟨small, whole, plain⟩ => ⟨small, whole, plain⟩⟩

noncomputable instance : Decidable (FormsApart lower decompositions) := decidable_of_iff' _ formsApart_iff

theorem decompositionTable_parts : [alphabetDecompositions, symbolDecompositions, presentationDecompositions,
    supplementaryDecompositions].flatten = decompositionTable := by
  simp only [decompositionTable, List.flatten_cons, List.flatten_nil, List.append_nil, List.append_assoc]

set_option maxRecDepth 20000 in
theorem forms_apart : FormsApart lowercaseTable decompositionTable := by
  refine Reading.start (P := fun lower => FormsApart lower decompositionTable) List.flatten_singleton ?_
  unfold lowercaseTable
  repeat with_reducible refine .mapping ?_
  refine .next (.done ?_)
  refine Reading.start (P := FormsApart _) decompositionTable_parts ?_
  unfold alphabetDecompositions symbolDecompositions presentationDecompositions supplementaryDecompositions
  repeat with_reducible first | refine .mapping ?_ | refine .next ?_
  exact .done (by decide +kernel)

def IsSmall (c : Char) : Prop := lowercaseChar c = [c]

def IsWhole (c : Char) : Prop := decomposeChar c = [c]

instance : Decidable (IsSmall c) := inferInstanceAs (Decidable (_ = _))
instance : Decidable (IsWhole c) := inferInstanceAs (Decidable (_ = _))

theorem IsSmall.eq_of_mem (same : IsSmall c) (form : small ∈ lowercaseChar c) : small = c := by
  rwa [same, List.mem_singleton] at form

theorem IsWhole.eq_of_mem (whole : IsWhole c) (part : d ∈ decomposeChar c) : d = c := by
  rwa [whole, List.mem_singleton] at part

theorem whole_of_ascii (ascii : isAscii c = true) : IsWhole c := if_pos ascii

theorem small_toLower (ascii : isAscii c = true) : IsSmall c.toLower :=
  ascii_induction (P := fun c => IsSmall c.toLower) (by decide +kernel) ascii

theorem isAscii_toLower (ascii : isAscii c = true) : isAscii c.toLower = true :=
  ascii_induction (P := fun c => isAscii c.toLower = true) (by decide +kernel) ascii

theorem small_of_bits (clear : (capitalBits lowercaseTable).testBit c.toNat = false) : IsSmall c := by
  rw [capitalBits, Nat.testBit_or, Bool.or_eq_false_iff] at clear
  cases ascii : isAscii c with
  | true =>
    exact ascii_induction (P := fun c => asciiCapitals.testBit c.toNat = false → IsSmall c) (by decide +kernel) ascii
      clear.2
  | false => rw [IsSmall, lowercaseChar, ascii, find?_eq_none_of_bits clear.1]; rfl

theorem mem_lowercaseChar_cases (member : small ∈ lowercaseChar c) :
    (isAscii c = true ∧ small = c.toLower) ∨ (IsSmall c ∧ small = c) ∨
      lowercaseTable.valueBits.testBit small.toNat = true := by
  unfold IsSmall
  unfold lowercaseChar at member ⊢
  split at member
  · exact .inl ⟨‹_›, List.mem_singleton.mp member⟩
  · cases found : lowercaseTable.find? c.toNat with
    | none =>
      rw [found] at member
      exact .inr (.inl ⟨by rw [if_neg ‹_›]; rfl, List.mem_singleton.mp member⟩)
    | some value =>
      rw [found] at member
      exact .inr (.inr (testBit_valueBits found member))

theorem small_of_mem_lowercaseChar (member : small ∈ lowercaseChar c) : IsSmall small := by
  rcases mem_lowercaseChar_cases member with ⟨ascii, rfl⟩ | ⟨same, rfl⟩ | listed
  · exact small_toLower ascii
  · exact same
  · exact small_of_bits (not_testBit_of_apart forms_apart.small listed)

theorem toNat_ofNat_of_low (low : code < 0xd800) : (Char.ofNat code).toNat = code := by
  rw [Char.ofNat, dif_pos (Or.inl low)]
  rfl

theorem testBit_hangulLetters (syllable : index < 11172) (member : d ∈ decomposeSyllable index) :
    hangulLetters.testBit d.toNat = true := by
  refine testBit_spanBits.mpr ?_
  have letter : ∃ code, 0x1100 ≤ code ∧ code ≤ 0x11c2 ∧ d = Char.ofNat code := by
    unfold decomposeSyllable at member
    have leading : index / 588 ≤ 18 := by omega
    have vowel : index % 588 / 28 ≤ 20 := by omega
    split at member <;> simp only [List.mem_cons, List.not_mem_nil, or_false] at member
    · rcases member with first | second
      · exact ⟨_, by omega, by omega, first⟩
      · exact ⟨_, by omega, by omega, second⟩
    · rcases member with first | second | third
      · exact ⟨_, by omega, by omega, first⟩
      · exact ⟨_, by omega, by omega, second⟩
      · exact ⟨_, by omega, by omega, third⟩
  obtain ⟨code, least, most, rfl⟩ := letter
  rw [toNat_ofNat_of_low (by omega)]
  exact ⟨least, Nat.lt_succ_of_le most⟩

theorem mem_decomposeChar_cases (member : d ∈ decomposeChar c) :
    (IsWhole c ∧ d = c) ∨ (hangulSyllables.testBit c.toNat = true ∧ hangulLetters.testBit d.toNat = true) ∨
      ∃ value, decompositionTable.find? c.toNat = some value ∧ d ∈ value := by
  unfold IsWhole
  unfold decomposeChar at member ⊢
  split at member
  · exact .inl ⟨if_pos ‹_›, List.mem_singleton.mp member⟩
  · rename_i other
    split at member
    · rename_i syllable
      simp only [Bool.and_eq_true, decide_eq_true_eq] at syllable
      exact .inr (.inl ⟨testBit_spanBits.mpr (by omega), testBit_hangulLetters (by omega) member⟩)
    · rename_i apart
      cases found : decompositionTable.find? c.toNat with
      | none =>
        rw [found] at member
        exact .inl ⟨by rw [if_neg other, if_neg apart]; rfl, List.mem_singleton.mp member⟩
      | some value =>
        rw [found] at member
        exact .inr (.inr ⟨value, rfl, member⟩)

theorem whole_of_bits (clear : (decompositionTable.bits ||| hangulSyllables).testBit c.toNat = false) : IsWhole c := by
  rw [Nat.testBit_or, Bool.or_eq_false_iff] at clear
  cases ascii : isAscii c with
  | true => exact whole_of_ascii ascii
  | false =>
    have apart : ¬(0xac00 ≤ c.toNat ∧ c.toNat < 0xd7a4) := by
      rw [← testBit_spanBits, ← hangulSyllables, clear.2]
      exact Bool.false_ne_true
    rw [IsWhole, decomposeChar, ascii, if_neg Bool.false_ne_true, if_neg (by simpa [Nat.lt_succ_iff] using apart),
      find?_eq_none_of_bits clear.1]
    rfl

theorem whole_of_mem_decomposeChar (member : d ∈ decomposeChar c) : IsWhole d := by
  have whole (part : (decompositionTable.valueBits ||| hangulLetters).testBit d.toNat = true) : IsWhole d :=
    whole_of_bits (not_testBit_of_apart forms_apart.whole part)
  rcases mem_decomposeChar_cases member with ⟨same, rfl⟩ | ⟨_, letter⟩ | ⟨value, found, among⟩
  · exact same
  · exact whole (by rw [Nat.testBit_or, letter, Bool.or_true])
  · exact whole (by rw [Nat.testBit_or, testBit_valueBits found among, Bool.true_or])

-- The lowercase form of a capital does not have another capital in its decomposition.
theorem small_of_mem_decompose_lowercase (capital : ¬IsSmall c) (form : small ∈ lowercaseChar c)
    (member : d ∈ decomposeChar small) : IsSmall d := by
  have smallForm := small_of_mem_lowercaseChar form
  rcases mem_lowercaseChar_cases form with ⟨ascii, rfl⟩ | ⟨same, _⟩ | listed
  · rwa [(whole_of_ascii (isAscii_toLower ascii)).eq_of_mem member]
  · exact absurd same capital
  · have plain := not_testBit_of_apart forms_apart.plain listed
    rw [Nat.testBit_or, Bool.or_eq_false_iff] at plain
    rcases mem_decomposeChar_cases member with ⟨_, rfl⟩ | ⟨syllable, _⟩ | ⟨value, found, among⟩
    · exact smallForm
    · exact absurd (plain.2.symm.trans syllable) Bool.false_ne_true
    · have none : charBits value &&& capitalBits lowercaseTable = 0 := by
        simpa [hasCapital] using unwanted_of_bits plain.1 found
      exact small_of_bits (not_testBit_of_apart none (testBit_charBits among))

theorem sigma_small_whole (sigma : c = 'σ' ∨ c = 'ς') : IsSmall c ∧ IsWhole c := by
  rcases sigma with rfl | rfl <;> decide +kernel

theorem small_of_mem_decompose_sigma (sigma : c = 'σ' ∨ c = 'ς') (part : d ∈ decomposeChar c) : IsSmall d := by
  obtain ⟨same, whole⟩ := sigma_small_whole sigma
  rwa [whole.eq_of_mem part]

section Texts

theorem mem_lowercaseAfter (member : small ∈ lowercaseAfter before text) :
    (∃ c ∈ text, small ∈ lowercaseChar c) ∨ small = 'σ' ∨ small = 'ς' := by
  induction text generalizing before with
  | nil => cases member
  | cons first others ih =>
    rcases List.mem_append.mp member with here | later
    · split at here
      · rw [List.mem_singleton, lowercaseSigma] at here
        split at here
        · exact .inr (.inr here)
        · exact .inr (.inl here)
      · exact .inl ⟨first, List.mem_cons_self, here⟩
    · rcases ih later with ⟨c, among, form⟩ | sigma
      · exact .inl ⟨c, List.mem_cons_of_mem _ among, form⟩
      · exact .inr sigma

theorem mem_lowercaseAfter_of_mem (member : c ∈ text) (other : c ≠ 'Σ') (form : small ∈ lowercaseChar c) :
    small ∈ lowercaseAfter before text := by
  induction text generalizing before with
  | nil => cases member
  | cons first others ih =>
    rw [lowercaseAfter, List.mem_append]
    rcases List.mem_cons.mp member with rfl | later
    · exact .inl (by rwa [if_neg other])
    · exact .inr (ih later)

theorem lowercaseAfter_of_small (each : ∀ c ∈ text, IsSmall c) : lowercaseAfter before text = text := by
  induction text generalizing before with
  | nil => rfl
  | cons first others ih =>
    obtain ⟨same, rest⟩ := List.forall_mem_cons.mp each
    have other : first ≠ 'Σ' := by
      rintro rfl
      revert same
      decide +kernel
    rw [lowercaseAfter, if_neg other, ih rest, same, List.singleton_append]

theorem small_of_mem_lowercase {text : String} (member : c ∈ (lowercase text).toList) : IsSmall c := by
  rw [lowercase, String.toList_ofList] at member
  rcases mem_lowercaseAfter member with ⟨_, _, form⟩ | sigma
  · exact small_of_mem_lowercaseChar form
  · exact (sigma_small_whole sigma).1

theorem lowercase_of_small {text : String} (each : ∀ c ∈ text.toList, IsSmall c) : lowercase text = text := by
  rw [lowercase, lowercaseAfter_of_small each, String.ofList_toList]

end Texts

end TextFeatures.Unicode
