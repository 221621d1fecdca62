import Mathlib.Data.List.Infix
import TextFeatures.Proofs.Text.Cuts
import TextFeatures.Tokens.Grams

namespace TextFeatures.Grams
open Unicode

variable {c d first second : Char} {text piece left right rest front gram back word : List Char}

theorem collapseBlanks_run (blank : isBlank c = true) (blankToo : isBlank d = true) :
    collapseBlanks (c :: d :: rest) = ' ' :: (collapseBlanks (d :: rest)).tail := by
  simp [collapseBlanks, blank, blankToo]

theorem collapseBlanks_apart (apart : (isBlank c && isBlank d) = false) :
    collapseBlanks (c :: d :: rest) = c :: collapseBlanks (d :: rest) := by
  simp only [collapseBlanks, apart, Bool.false_eq_true, if_false]

theorem collapseBlanks_unbroken (unbroken : isBlank c = false) :
    collapseBlanks (c :: rest) = c :: collapseBlanks rest := by
  cases rest with
  | nil => rfl
  | cons d rest => exact collapseBlanks_apart (by simp [unbroken])

-- Blanks up to the next character that is none. The first of them stays if it is alone.
theorem collapseBlanks_gap (blank : isBlank c = true) (blanks : ∀ d ∈ piece, isBlank d = true)
    (closes : ∀ d ∈ rest.head?, isBlank d = false) :
    collapseBlanks (c :: piece ++ rest) =
      (if 2 ≤ (c :: piece).length then ' ' else c) :: collapseBlanks rest := by
  induction piece generalizing c with
  | nil =>
    cases rest with
    | nil => rfl
    | cons e rest =>
      have apart : (isBlank c && isBlank e) = false := by simp [closes e rfl]
      rw [List.singleton_append, collapseBlanks_apart apart]
      rfl
  | cons d piece ih =>
    obtain ⟨here, later⟩ := List.forall_mem_cons.mp blanks
    have behind := ih here later
    rw [List.cons_append] at behind
    rw [List.cons_append, List.cons_append, collapseBlanks_run blank here, behind, List.tail_cons,
      if_pos (by simp)]

theorem collapseBlanks_blank (blank : isBlank c = true) : collapseBlanks (c :: rest) =
    (if 2 ≤ ((c :: rest).takeWhile isBlank).length then ' ' else c) ::
      collapseBlanks ((c :: rest).dropWhile isBlank) := by
  have blanks : ∀ d ∈ rest.takeWhile isBlank, isBlank d = true := fun d => List.mem_takeWhile_imp
  have closes : ∀ d ∈ (rest.dropWhile isBlank).head?, isBlank d = false := fun d => Text.head_dropWhile
  have gap := collapseBlanks_gap blank blanks closes
  rw [List.cons_append, List.takeWhile_append_dropWhile] at gap
  rw [gap, List.takeWhile_cons_of_pos blank, List.dropWhile_cons_of_pos blank]

theorem exists_collapseBlanks (c : Char) (rest : List Char) :
    ∃ d others, collapseBlanks (c :: rest) = d :: others ∧ isBlank d = isBlank c := by
  cases rest with
  | nil => exact ⟨c, [], rfl, rfl⟩
  | cons d rest =>
    cases run : isBlank c && isBlank d with
    | true =>
      simp only [Bool.and_eq_true] at run
      exact ⟨' ', _, collapseBlanks_run run.1 run.2, run.1.symm⟩
    | false => exact ⟨c, _, collapseBlanks_apart run, rfl⟩

-- Text is collapsed in the way it is read: nothing at all, one character, two blanks first of all, or two characters
-- that are not both blanks.
theorem collapse_induction {motive : List Char → Prop} (nil : motive []) (single : ∀ c, motive [c])
    (run : ∀ c d rest, isBlank c = true → isBlank d = true → motive (d :: rest) → motive (c :: d :: rest))
    (apart : ∀ c d rest, (isBlank c && isBlank d) = false → motive (d :: rest) → motive (c :: d :: rest))
    (text : List Char) : motive text := by
  induction text with
  | nil => exact nil
  | cons c rest ih =>
    cases rest with
    | nil => exact single c
    | cons d rest =>
      cases blanks : isBlank c && isBlank d with
      | true =>
        simp only [Bool.and_eq_true] at blanks
        exact run c d rest blanks.1 blanks.2 ih
      | false => exact apart c d rest blanks ih

theorem length_collapseBlanks_le : (collapseBlanks text).length ≤ text.length := by
  induction text using collapse_induction with
  | nil => exact Nat.le_refl _
  | single c => exact Nat.le_refl _
  | run c d rest blank blankToo ih =>
    rw [collapseBlanks_run blank blankToo]
    simp only [List.length_cons, List.length_tail] at ih ⊢
    omega
  | apart c d rest apart ih =>
    rw [collapseBlanks_apart apart]
    simp only [List.length_cons] at ih ⊢
    omega

def HasGap (text : List Char) : Prop :=
  ∃ first second, isBlank first = true ∧ isBlank second = true ∧ [first, second] <:+: text

theorem HasGap.two_le (gap : HasGap text) : 2 ≤ text.length := by
  obtain ⟨_, _, _, _, within⟩ := gap
  exact within.length_le

theorem hasGap_cons_iff (apart : (isBlank c && isBlank d) = false) : HasGap (c :: d :: rest) ↔ HasGap (d :: rest) := by
  constructor
  · rintro ⟨first, second, blank, blankToo, within⟩
    rcases List.infix_cons_iff.mp within with here | later
    · simp only [List.cons_prefix_cons] at here
      obtain ⟨rfl, rfl, _⟩ := here
      simp [blank, blankToo] at apart
    · exact ⟨first, second, blank, blankToo, later⟩
  · rintro ⟨first, second, blank, blankToo, within⟩
    exact ⟨first, second, blank, blankToo, within.trans (List.suffix_cons c _).isInfix⟩

-- Collapsing changes the length of a text with a gap, and nothing where there is none.

theorem collapseBlanks_of_no_gap (gapless : ¬HasGap text) : collapseBlanks text = text := by
  induction text using collapse_induction with
  | nil => rfl
  | single c => rfl
  | run c d rest blank blankToo ih =>
    refine absurd ⟨c, d, blank, blankToo, ?_⟩ gapless
    exact (List.prefix_append [c, d] rest).isInfix
  | apart c d rest apart ih =>
    rw [hasGap_cons_iff apart] at gapless
    rw [collapseBlanks_apart apart, ih gapless]

theorem length_collapseBlanks_lt (gap : HasGap text) : (collapseBlanks text).length < text.length := by
  induction text using collapse_induction with
  | nil =>
    have long := gap.two_le
    cases long
  | single c =>
    have long : 2 ≤ 1 := gap.two_le
    omega
  | run c d rest blank blankToo ih =>
    have shorter : (collapseBlanks (d :: rest)).length ≤ (d :: rest).length := length_collapseBlanks_le
    rw [collapseBlanks_run blank blankToo]
    simp only [List.length_cons, List.length_tail] at shorter ⊢
    omega
  | apart c d rest apart ih =>
    have shorter := ih ((hasGap_cons_iff apart).mp gap)
    rw [collapseBlanks_apart apart]
    simp only [List.length_cons] at shorter ⊢
    omega

-- A character that is no blank keeps what is in front of it apart from what is behind it.
theorem collapseBlanks_cut (unbroken : isBlank c = false) :
    collapseBlanks (left ++ c :: right) = collapseBlanks left ++ c :: collapseBlanks right := by
  induction left using collapse_induction with
  | nil => exact collapseBlanks_unbroken unbroken
  | single d =>
    have apart : (isBlank d && isBlank c) = false := by simp [unbroken]
    rw [List.singleton_append, collapseBlanks_apart apart, collapseBlanks_unbroken unbroken]
    rfl
  | run d e rest blank blankToo ih =>
    obtain ⟨f, others, kept, _⟩ := exists_collapseBlanks e rest
    rw [List.cons_append] at ih
    rw [List.cons_append, List.cons_append, collapseBlanks_run blank blankToo, ih, collapseBlanks_run blank blankToo,
      kept]
    rfl
  | apart d e rest apart ih =>
    rw [List.cons_append] at ih
    rw [List.cons_append, List.cons_append, collapseBlanks_apart apart, ih, collapseBlanks_apart apart]
    rfl

theorem collapseBlanks_gram (unbroken : ∀ c ∈ gram, isBlank c = false) :
    collapseBlanks (gram ++ right) = gram ++ collapseBlanks right := by
  induction gram with
  | nil => rfl
  | cons c more ih =>
    obtain ⟨here, later⟩ := List.forall_mem_cons.mp unbroken
    rw [List.cons_append, collapseBlanks_unbroken here, ih later]
    rfl

-- Wherever the collapsed text has a character that is no blank, the text has it too.
theorem exists_cut (unbroken : isBlank c = false) (collapsed : collapseBlanks text = front ++ c :: back) :
    ∃ left right, text = left ++ c :: right ∧ collapseBlanks left = front ∧ collapseBlanks right = back := by
  induction text using collapse_induction generalizing front with
  | nil => simp [collapseBlanks] at collapsed
  | single d =>
    cases front with
    | nil =>
      obtain ⟨rfl, rfl⟩ := List.cons.inj collapsed
      exact ⟨[], [], rfl, rfl, rfl⟩
    | cons e front => simp [collapseBlanks] at collapsed
  | run d e rest blank blankToo ih =>
    rw [collapseBlanks_run blank blankToo] at collapsed
    cases front with
    | nil =>
      obtain ⟨rfl, _⟩ := List.cons.inj collapsed
      cases unbroken
    | cons f front =>
      obtain ⟨rfl, later⟩ := List.cons.inj collapsed
      obtain ⟨g, others, kept, _⟩ := exists_collapseBlanks e rest
      rw [kept, List.tail_cons] at later
      have laterToo : collapseBlanks (e :: rest) = (g :: front) ++ c :: back := by
        rw [kept, later]
        rfl
      obtain ⟨left, right, parts, before, behind⟩ := ih laterToo
      cases left with
      | nil => cases before
      | cons h left =>
        obtain ⟨rfl, others⟩ := List.cons.inj parts
        refine ⟨d :: e :: left, right, ?_, ?_, behind⟩
        · rw [others]
          rfl
        · rw [collapseBlanks_run blank blankToo, before]
          rfl
  | apart d e rest apart ih =>
    rw [collapseBlanks_apart apart] at collapsed
    cases front with
    | nil =>
      obtain ⟨rfl, later⟩ := List.cons.inj collapsed
      exact ⟨[], e :: rest, rfl, rfl, later⟩
    | cons f front =>
      obtain ⟨rfl, later⟩ := List.cons.inj collapsed
      obtain ⟨left, right, parts, before, behind⟩ := ih later
      refine ⟨d :: left, right, ?_, ?_, behind⟩
      · rw [parts]
        rfl
      · cases left with
        | nil => rw [← before]; rfl
        | cons g left =>
          obtain ⟨rfl, _⟩ := List.cons.inj parts
          rw [collapseBlanks_apart apart, before]

theorem eq_nil_of_collapseBlanks (collapsed : collapseBlanks text = []) : text = [] := by
  cases text with
  | nil => rfl
  | cons c rest =>
    obtain ⟨d, others, kept, _⟩ := exists_collapseBlanks c rest
    rw [kept] at collapsed
    cases collapsed

theorem exists_behind (unbroken : ∀ c ∈ word, isBlank c = false) (collapsed : collapseBlanks text = word ++ back) :
    ∃ right, text = word ++ right := by
  induction word generalizing text with
  | nil => exact ⟨text, rfl⟩
  | cons c word ih =>
    obtain ⟨here, later⟩ := List.forall_mem_cons.mp unbroken
    rw [← List.nil_append (c :: word ++ back)] at collapsed
    obtain ⟨left, right, parts, before, behind⟩ := exists_cut here collapsed
    obtain ⟨rest, same⟩ := ih later behind
    refine ⟨rest, ?_⟩
    rw [parts, eq_nil_of_collapseBlanks before, same]
    rfl

-- Both ways, for a word in place of a character.

theorem collapseBlanks_around (nonempty : word ≠ []) (unbroken : ∀ c ∈ word, isBlank c = false) :
    collapseBlanks (left ++ word ++ right) = collapseBlanks left ++ word ++ collapseBlanks right := by
  cases word with
  | nil => exact absurd rfl nonempty
  | cons c word =>
    obtain ⟨here, later⟩ := List.forall_mem_cons.mp unbroken
    rw [List.append_assoc, List.cons_append, collapseBlanks_cut here, collapseBlanks_gram later, List.append_assoc]
    rfl

theorem exists_around (nonempty : word ≠ []) (unbroken : ∀ c ∈ word, isBlank c = false)
    (collapsed : collapseBlanks text = front ++ word ++ back) :
    ∃ left right, text = left ++ word ++ right ∧ collapseBlanks left = front := by
  cases word with
  | nil => exact absurd rfl nonempty
  | cons c word =>
    obtain ⟨here, later⟩ := List.forall_mem_cons.mp unbroken
    rw [List.append_assoc] at collapsed
    obtain ⟨left, right, parts, before, behind⟩ := exists_cut here collapsed
    obtain ⟨rest, same⟩ := exists_behind later behind
    refine ⟨left, rest, ?_, before⟩
    rw [parts, same, List.append_assoc]
    rfl

end TextFeatures.Grams
