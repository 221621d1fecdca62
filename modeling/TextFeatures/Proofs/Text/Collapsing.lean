import TextFeatures.Proofs.Text.Cuts
import TextFeatures.Proofs.Text.Numbers

namespace TextFeatures

namespace Pattern
open Unicode Text

variable {replacement rest word : List Char} {offset : Nat} {c : Char} {good : List Char → Bool} {kind : Bool}

theorem splice_out (nonempty : good [] = false) (out : isWord c = false) :
    spliceFrom replacement offset (c :: rest) (matchedRuns good offset (c :: rest)) =
      c :: spliceFrom replacement (offset + 1) rest (matchedRuns good (offset + 1) rest) := by
  have spliced : spliceFrom replacement offset ([] ++ c :: rest) (matchedRuns good offset ([] ++ c :: rest)) =
      replaced good replacement [] ++ c :: spliceFrom replacement (offset + 0 + 1) rest
        (matchedRuns good (offset + 0 + 1) rest) := by
    apply splice_cut nonempty
    · intro d among
      cases among
    · exact out
  simpa [replaced, nonempty] using spliced

theorem splice_gap (nonempty : good [] = false) (gap : ∀ c ∈ word, isWord c = false) :
    spliceFrom replacement offset (word ++ rest) (matchedRuns good offset (word ++ rest)) =
      word ++ spliceFrom replacement (offset + word.length) rest (matchedRuns good (offset + word.length) rest) := by
  induction word generalizing offset with
  | nil => rfl
  | cons c others ih =>
    obtain ⟨out, gapToo⟩ := List.forall_mem_cons.mp gap
    rw [List.cons_append, splice_out nonempty out, ih gapToo, List.length_cons, Nat.add_assoc, Nat.add_comm 1]
    rfl

theorem splice_word (nonempty : good [] = false) (stretch : Stretch isWord true word rest) :
    spliceFrom replacement offset (word ++ rest) (matchedRuns good offset (word ++ rest)) =
      replaced good replacement word ++
        spliceFrom replacement (offset + word.length) rest (matchedRuns good (offset + word.length) rest) := by
  cases rest with
  | nil =>
    rw [List.append_nil, splice_whole nonempty stretch.uniform]
    simp [matchedRuns, runsAfter, spliceFrom]
  | cons c rest =>
    have out : isWord c = false := stretch.changes c rfl
    rw [splice_cut nonempty stretch.uniform out, splice_out nonempty out]

theorem isWord_of_isNumber (number : isNumber word = true) : ∀ c ∈ word, isWord c = true := by
  simp only [isNumber, Bool.and_eq_true, List.all_eq_true] at number
  intro c among
  exact isWord_of_isAsciiDigit (number.2 c among)

theorem isWord_of_mem_numberMarker : ∀ c ∈ numberMarker.toList, isWord c = true := by
  rw [toList_numberMarker, ← List.all_eq_true]
  decide

theorem collapsed_gap (nonempty : word ≠ []) (gap : ∀ c ∈ word, isWord c = false) : collapsed word = word := by
  have unnumbered : isNumber word = false := by
    cases word with
    | nil => exact absurd rfl nonempty
    | cons c others =>
      rw [← Bool.not_eq_true]
      intro number
      have inside := isWord_of_isNumber number c List.mem_cons_self
      rw [gap c List.mem_cons_self] at inside
      cases inside
  simp [collapsed, replaced, unnumbered]

-- Collapsing numbers does to each piece of a text what it does to it by itself.
theorem toList_collapseNumbers_cut {text : String} :
    (collapseNumbers text).toList = (cut isWord text.toList).flatMap collapsed := by
  have each (offset : Nat) (text : List Char) : spliceFrom numberMarker.toList offset text
      (matchedRuns isNumber offset text) = (cut isWord text).flatMap collapsed := by
    induction text using cut_induction isWord generalizing offset with
    | nil => rfl
    | append kind piece rest stretch ih =>
      rw [cut_append stretch, List.flatMap_cons, ← ih (offset + piece.length)]
      cases kind with
      | true => exact splice_word rfl stretch
      | false => rw [splice_gap rfl stretch.uniform, collapsed_gap stretch.nonempty stretch.uniform]
  rw [toList_collapseNumbers, each]

theorem collapsed_kept (kind : Bool) (piece : List Char) (nonempty : piece ≠ [])
    (uniform : ∀ c ∈ piece, isWord c = kind) :
    collapsed piece ≠ [] ∧ ∀ c ∈ collapsed piece, isWord c = kind := by
  unfold collapsed replaced
  split
  · rename_i number
    obtain rfl : kind = true := by
      cases piece with
      | nil => exact absurd rfl nonempty
      | cons c others =>
        rw [← uniform c List.mem_cons_self]
        exact isWord_of_isNumber number c List.mem_cons_self
    refine ⟨?_, isWord_of_mem_numberMarker⟩
    rw [toList_numberMarker]
    exact List.cons_ne_nil _ _
  · exact ⟨nonempty, uniform⟩

theorem collapsed_collapsed : collapsed (collapsed word) = collapsed word := by
  unfold collapsed
  cases number : isNumber word with
  | false => simp [replaced, number]
  | true =>
    have unnumbered : isNumber numberMarker.toList = false := by
      rw [toList_numberMarker]
      rfl
    simp [replaced, number, unnumbered]

theorem collapseNumbers_collapseNumbers {text : String} :
    collapseNumbers (collapseNumbers text) = collapseNumbers text := by
  apply String.toList_inj.mp
  rw [toList_collapseNumbers_cut, toList_collapseNumbers_cut, cut_flatMap collapsed_kept, List.flatMap_map]
  apply List.flatMap_congr
  intro piece _
  exact collapsed_collapsed

-- Texts that differ in the digits of their numbers at most: what one has in a place the other has too, or both have a
-- number there.
def SameButNumbers (one other : List Char) : Prop :=
  List.Forall₂ (fun piece counterpart => piece = counterpart ∨ isNumber piece = true ∧ isNumber counterpart = true)
    (cut isWord one) (cut isWord other)

instance {one other : List Char} : Decidable (SameButNumbers one other) :=
  inferInstanceAs (Decidable (List.Forall₂ _ (cut isWord one) (cut isWord other)))

theorem collapseNumbers_congr {one other : String} (same : SameButNumbers one.toList other.toList) :
    collapseNumbers one = collapseNumbers other := by
  have each {pieces others : List (List Char)} (alike : List.Forall₂ (fun piece counterpart =>
      piece = counterpart ∨ isNumber piece = true ∧ isNumber counterpart = true) pieces others) :
      pieces.flatMap collapsed = others.flatMap collapsed := by
    induction alike with
    | nil => rfl
    | cons alike _ ih =>
      rw [List.flatMap_cons, List.flatMap_cons, ih]
      rcases alike with rfl | ⟨number, numberToo⟩
      · rfl
      · simp [collapsed, replaced, number, numberToo]
  apply String.toList_inj.mp
  rw [toList_collapseNumbers_cut, toList_collapseNumbers_cut]
  exact each same

end Pattern

end TextFeatures
