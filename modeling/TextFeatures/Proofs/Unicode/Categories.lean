import TextFeatures.Proofs.Unicode.Tables
import TextFeatures.Unicode.Decomposition

namespace TextFeatures.Unicode
open GeneralCategory

variable {c : Char} {version : Version} {wanted : List GeneralCategory} {classes : Table Nat}
  {categories later : Table GeneralCategory} {draft : CodeSet}

theorem ascii_induction {P : Char → Prop} (each : ∀ code < 0x80, P (Char.ofNat code)) (ascii : isAscii c = true) :
    P c := by
  have holds := each c.toNat (of_decide_eq_true ascii)
  rwa [Char.ofNat_toNat] at holds

def asciiBits : Nat := spanBits 0x0 0x80

def blankCodes : List Nat :=
  [0x9, 0xa, 0xb, 0xc, 0xd, 0x20, 0x85, 0xa0, 0x1680, 0x2000, 0x2001, 0x2002, 0x2003, 0x2004, 0x2005, 0x2006, 0x2007,
    0x2008, 0x2009, 0x200a, 0x2028, 0x2029, 0x202f, 0x205f, 0x3000]

noncomputable def blankBits : Nat := joinBits (fun code => 1 <<< code) blankCodes

theorem mem_blankCodes (blank : isBlank c = true) : c.toNat ∈ blankCodes := by
  simp only [isBlank, Bool.or_eq_true, Bool.and_eq_true, decide_eq_true_eq] at blank
  simp only [blankCodes, List.mem_cons, List.not_mem_nil, or_false]
  omega

theorem testBit_blankBits (blank : isBlank c = true) : blankBits.testBit c.toNat = true := by
  refine testBit_joinBits.mpr ⟨_, mem_blankCodes blank, ?_⟩
  rw [Nat.one_shiftLeft, Nat.testBit_two_pow_self]

def isMarkCategory (category : GeneralCategory) : Bool := marks.contains category

-- The categories of what words consist of, and of what lowercasing looks at or past.
def isWordCategory (category : GeneralCategory) : Bool := (letters ++ marks ++ [Nl, Nd, Pc, Cf, Sk]).contains category

-- How the tables of combining classes and of categories go together, where the later categories stand before the
-- earlier ones: what has a class is in no category but the marks, and is in one of them unless the draft adds it. No
-- mark is in ASCII, and no blank is in a category of words.
structure CategoriesFit (classes : Table Nat) (categories later : Table GeneralCategory) (draft : CodeSet) : Prop where
  only : classes.bits &&& (categories.bitsWhere (!isMarkCategory ·) ||| later.bitsWhere (!isMarkCategory ·)) = 0
  every : draft.missing (later.missing (categories.missing classes.bits)) = 0
  ascii : asciiBits &&& (categories.bitsWhere isMarkCategory ||| later.bitsWhere isMarkCategory ||| draft.bits) = 0
  blank : blankBits &&& (categories.bitsWhere isWordCategory ||| later.bitsWhere isWordCategory) = 0

theorem categoriesFit_iff : CategoriesFit classes categories later draft ↔
    classes.bits &&& (categories.bitsWhere (!isMarkCategory ·) ||| later.bitsWhere (!isMarkCategory ·)) = 0 ∧
    draft.missing (later.missing (categories.missing classes.bits)) = 0 ∧
    asciiBits &&& (categories.bitsWhere isMarkCategory ||| later.bitsWhere isMarkCategory ||| draft.bits) = 0 ∧
    blankBits &&& (categories.bitsWhere isWordCategory ||| later.bitsWhere isWordCategory) = 0 :=
  ⟨fun ⟨only, every, ascii, blank⟩ => ⟨only, every, ascii, blank⟩,
    fun ⟨only, every, ascii, blank⟩ => ⟨only, every, ascii, blank⟩⟩

noncomputable instance : Decidable (CategoriesFit classes categories later draft) := decidable_of_iff' _ categoriesFit_iff

set_option maxRecDepth 20000 in
theorem categories_fit : CategoriesFit combiningClassTable categoryTable laterCategories draftMarks := by
  refine Reading.start (P := fun draft => CategoriesFit _ _ _ draft) List.flatten_singleton ?_
  unfold draftMarks setRow
  repeat with_reducible refine .row ?_
  refine .next (.done ?_)
  refine Reading.start (P := fun later => CategoriesFit _ _ later _) List.flatten_singleton ?_
  unfold laterCategories categoryRow
  repeat with_reducible refine .row ?_
  refine .next (.done ?_)
  refine Reading.start (P := fun categories => CategoriesFit _ categories _ _) List.flatten_singleton ?_
  unfold categoryTable categoryRow
  repeat with_reducible refine .row ?_
  refine .next (.done ?_)
  refine Reading.start (P := fun classes => CategoriesFit classes _ _ _) List.flatten_singleton ?_
  unfold combiningClassTable classRow
  repeat with_reducible refine .row ?_
  exact .next (.done (by decide +kernel))

theorem contains_eq_false {set sets : CodeSet} (clear : sets.bits.testBit c.toNat = false) (part : set ⊆ sets) :
    set.contains c = false := by
  rw [CodeSet.contains]
  cases found : set.find? c.toNat with
  | none => rfl
  | some value =>
    obtain ⟨row, among, entry, listed, covers, _⟩ := Table.exists_entry_of_find? found
    have here : sets.bits.testBit c.toNat = true :=
      testBit_joinBits.mpr ⟨row, part among, Row.testBit_bitsWhere.mpr ⟨entry, listed, rfl, covers⟩⟩
    exact absurd (clear.symm.trans here) Bool.false_ne_true

section Marks

theorem testBit_classes (classed : combiningClass c ≠ 0) : combiningClassTable.bits.testBit c.toNat = true := by
  unfold combiningClass at classed
  split at classed
  · exact absurd rfl classed
  · cases found : combiningClassTable.find? c.toNat with
    | none => exact absurd (by rw [found]; rfl) classed
    | some value => exact testBit_bits found

theorem isMark_of_combiningClass (classed : combiningClass c ≠ 0) : isMark c = true := by
  have asked := testBit_classes classed
  have clear := not_testBit_of_apart categories_fit.only asked
  rw [Nat.testBit_or, Bool.or_eq_false_iff] at clear
  obtain ⟨earlierClear, laterClear⟩ := clear
  rw [isMark, hasCategory, generalCategory, Bool.or_eq_true]
  cases later : laterCategories.find? c.toNat with
  | some category => exact .inl (by simpa [isMarkCategory] using unwanted_of_bits laterClear later)
  | none =>
    cases earlier : categoryTable.find? c.toNat with
    | some category => exact .inl (by simpa [isMarkCategory] using unwanted_of_bits earlierClear earlier)
    | none =>
      cases drafted : draftMarks.find? c.toNat with
      | some _ => exact .inr (by rw [CodeSet.contains, drafted]; rfl)
      | none =>
        have missed := testBit_missing drafted (testBit_missing later (testBit_missing earlier asked))
        rw [categories_fit.every, Nat.zero_testBit] at missed
        exact absurd missed Bool.false_ne_true

theorem isMark_of_isAscii (ascii : isAscii c = true) : isMark c = false := by
  have here : asciiBits.testBit c.toNat = true :=
    testBit_spanBits.mpr ⟨Nat.zero_le _, of_decide_eq_true ascii⟩
  have clear := not_testBit_of_apart categories_fit.ascii here
  rw [Nat.testBit_or, Nat.testBit_or, Bool.or_eq_false_iff, Bool.or_eq_false_iff] at clear
  obtain ⟨⟨earlierClear, laterClear⟩, draftClear⟩ := clear
  rw [isMark, hasCategory, generalCategory, contains_eq_false draftClear (List.Subset.refl _)]
  cases later : laterCategories.find? c.toNat with
  | some category => simpa [isMarkCategory] using unwanted_of_bits laterClear later
  | none =>
    cases earlier : categoryTable.find? c.toNat with
    | some category => simpa [isMarkCategory] using unwanted_of_bits earlierClear earlier
    | none => rfl

end Marks

section Blanks

theorem category_of_blank (blank : isBlank c = true) : isWordCategory (generalCategory version c) = false := by
  have clear := not_testBit_of_apart categories_fit.blank (testBit_blankBits blank)
  rw [Nat.testBit_or, Bool.or_eq_false_iff] at clear
  have earlier : isWordCategory ((categoryTable.find? c.toNat).getD Cn) = false := by
    cases found : categoryTable.find? c.toNat with
    | none => rfl
    | some category => exact unwanted_of_bits clear.1 found
  cases version with
  | v16 => exact earlier
  | v17 =>
    rw [generalCategory]
    cases found : laterCategories.find? c.toNat with
    | none => exact earlier
    | some category => exact unwanted_of_bits clear.2 found

theorem hasCategory_of_blank (blank : isBlank c = true) (words : wanted.all isWordCategory = true) :
    hasCategory version wanted c = false := by
  rw [hasCategory, Bool.eq_false_iff]
  intro found
  have word := List.all_eq_true.mp words _ (List.contains_iff_mem.mp found)
  exact Bool.false_ne_true ((category_of_blank blank).symm.trans word)

end Blanks

end TextFeatures.Unicode
