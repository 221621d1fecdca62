import TextFeatures.Proofs.Tokens.Blanks

namespace TextFeatures.Grams
open Unicode Text

variable {c : Char} {kind : Bool} {text piece rest : List Char}

-- What a piece of a text that is cut at its blanks becomes: a space if it is two blanks or more.
def shortened (piece : List Char) : List Char :=
  if 2 ≤ piece.length ∧ piece.all isBlank = true then [' '] else piece

theorem shortened_solid (uniform : ∀ c ∈ piece, isBlank c = false) : shortened piece = piece := by
  refine if_neg ?_
  rintro ⟨long, blank⟩
  match piece, long with
  | c :: d :: more, _ =>
    have here := List.all_eq_true.mp blank c List.mem_cons_self
    rw [uniform c List.mem_cons_self] at here
    cases here

theorem shortened_gap (blank : isBlank c = true) (blanks : ∀ d ∈ rest, isBlank d = true) :
    shortened (c :: rest) = [if 2 ≤ (c :: rest).length then ' ' else c] := by
  have all : (c :: rest).all isBlank = true := List.all_eq_true.mpr (List.forall_mem_cons.mpr ⟨blank, blanks⟩)
  unfold shortened
  simp only [all, and_true]
  split
  · rfl
  · rename_i short
    rw [List.length_cons] at short
    have none : rest = [] := List.length_eq_zero_iff.mp (by omega)
    rw [none]

theorem collapseBlanks_stretch (stretch : Stretch isBlank kind piece rest) :
    collapseBlanks (piece ++ rest) = shortened piece ++ collapseBlanks rest := by
  cases kind with
  | false => rw [shortened_solid stretch.uniform, collapseBlanks_gram stretch.uniform]
  | true =>
    cases piece with
    | nil => exact absurd rfl stretch.nonempty
    | cons c piece =>
      obtain ⟨blank, blanks⟩ := List.forall_mem_cons.mp stretch.uniform
      rw [shortened_gap blank blanks, collapseBlanks_gap blank blanks stretch.changes]
      rfl

-- The text is cut into blanks and what is between them, and every piece is shortened by itself.
theorem collapseBlanks_eq : collapseBlanks text = (cut isBlank text).flatMap shortened := by
  induction text using cut_induction isBlank with
  | nil => rfl
  | append kind piece rest stretch ih =>
    rw [collapseBlanks_stretch stretch, ih, cut_append stretch, List.flatMap_cons]

theorem hasGap_cons_space (blank : isBlank c = true) (gap : HasGap (' ' :: rest)) : HasGap (c :: rest) := by
  obtain ⟨first, second, blankToo, blankThree, within⟩ := gap
  rcases List.infix_cons_iff.mp within with here | later
  · obtain ⟨rfl, after⟩ := List.cons_prefix_cons.mp here
    exact ⟨c, second, blank, blankThree, (List.cons_prefix_cons.mpr ⟨rfl, after⟩).isInfix⟩
  · exact ⟨first, second, blankToo, blankThree, List.infix_cons later⟩

theorem no_gap_collapseBlanks (text : List Char) : ¬HasGap (collapseBlanks text) := by
  induction text using collapse_induction with
  | nil =>
    intro gap
    have long := gap.two_le
    cases long
  | single c =>
    intro gap
    have long : 2 ≤ 1 := gap.two_le
    omega
  | run c d rest blank blankToo ih =>
    obtain ⟨e, others, kept, same⟩ := exists_collapseBlanks d rest
    rw [kept] at ih
    rw [collapseBlanks_run blank blankToo, kept, List.tail_cons]
    intro gap
    exact ih (hasGap_cons_space (same.trans blankToo) gap)
  | apart c d rest apart ih =>
    obtain ⟨e, others, kept, same⟩ := exists_collapseBlanks d rest
    rw [kept] at ih
    rw [collapseBlanks_apart apart, kept, hasGap_cons_iff (same ▸ apart)]
    exact ih

theorem collapseBlanks_again (text : List Char) : collapseBlanks (collapseBlanks text) = collapseBlanks text :=
  collapseBlanks_of_no_gap (no_gap_collapseBlanks text)

end TextFeatures.Grams
