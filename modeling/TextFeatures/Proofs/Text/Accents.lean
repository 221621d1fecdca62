import TextFeatures.Proofs.Unicode.Forms
import TextFeatures.Proofs.Unicode.Categories
import TextFeatures.Text.Accents

namespace TextFeatures

section Order
open Unicode

variable {c d : Char} {text : List Char}

theorem insertOrdered_perm : (insertOrdered c text).Perm (c :: text) := by
  induction text with
  | nil => exact .refl _
  | cons d others ih =>
    rw [insertOrdered]
    split
    · exact (ih.cons d).trans (.swap c d others)
    · exact .refl _

theorem canonicalOrder_perm : (canonicalOrder text).Perm text := by
  induction text with
  | nil => exact .refl _
  | cons c others ih => exact insertOrdered_perm.trans (ih.cons c)

-- Only marks move, and characters without a class are none.
theorem canonicalOrder_of_unclassed (unclassed : ∀ c ∈ text, combiningClass c = 0) : canonicalOrder text = text := by
  induction text with
  | nil => rfl
  | cons c others ih =>
    have rest := (List.forall_mem_cons.mp unclassed).2
    have step : canonicalOrder (c :: others) = insertOrdered c (canonicalOrder others) := rfl
    rw [step, ih rest]
    cases others with
    | nil => rfl
    | cons d more => rw [insertOrdered, if_neg fun moves => moves.1 (rest d List.mem_cons_self)]

theorem mem_decompose : d ∈ decompose text ↔ ∃ c ∈ text, d ∈ decomposeChar c := by
  rw [decompose, canonicalOrder_perm.mem_iff, List.mem_flatMap]

theorem decompose_of_whole (whole : ∀ c ∈ text, IsWhole c) (unclassed : ∀ c ∈ text, combiningClass c = 0) :
    decompose text = text := by
  have same : text.flatMap decomposeChar = text := by
    rw [List.flatMap_def, List.map_congr_left whole, ← List.flatMap_def, List.flatMap_singleton']
  rw [decompose, same, canonicalOrder_of_unclassed unclassed]

end Order

namespace Text.AccentStripping
open Unicode

variable {c d : Char} {mode : AccentStripping} {text : String}

def keeps (mode : AccentStripping) (c : Char) : Bool :=
  match mode with
  | ascii => isAscii c
  | unicode => !isMark c

theorem keeps_of_isAscii (plain : isAscii c = true) : mode.keeps c = true := by
  cases mode with
  | ascii => exact plain
  | unicode => rw [keeps, isMark_of_isAscii plain, Bool.not_false]

theorem unclassed_of_keeps (kept : mode.keeps c = true) : combiningClass c = 0 := by
  cases mode with
  | ascii =>
    have low : c.toNat < 0x80 := of_decide_eq_true kept
    exact if_pos (by omega)
  | unicode =>
    by_contra classed
    rw [keeps, isMark_of_combiningClass classed] at kept
    exact Bool.false_ne_true kept

theorem filter_keeps_decompose (kept : ∀ c ∈ text.toList, mode.keeps c = true) (whole : ∀ c ∈ text.toList, IsWhole c) :
    (decompose text.toList).filter mode.keeps = text.toList := by
  rw [decompose_of_whole whole fun c member => unclassed_of_keeps (kept c member), List.filter_eq_self]
  exact kept

-- That text in ASCII is not looked at any closer makes no difference.
theorem toList_strip : (mode.strip text).toList = (decompose text.toList).filter mode.keeps := by
  cases mode with
  | ascii => rw [strip, String.toList_ofList]; rfl
  | unicode =>
    rw [strip]
    split
    · rename_i plain
      have plain := List.all_eq_true.mp plain
      exact (filter_keeps_decompose (fun c member => keeps_of_isAscii (plain c member))
        fun c member => whole_of_ascii (plain c member)).symm
    · rw [String.toList_ofList]; rfl

theorem mem_strip : d ∈ (mode.strip text).toList ↔
    (∃ c ∈ text.toList, d ∈ decomposeChar c) ∧ mode.keeps d = true := by
  rw [toList_strip, List.mem_filter, mem_decompose]

theorem whole_of_mem_strip (member : d ∈ (mode.strip text).toList) : IsWhole d := by
  obtain ⟨⟨_, _, part⟩, _⟩ := mem_strip.mp member
  exact whole_of_mem_decomposeChar part

theorem strip_strip : mode.strip (mode.strip text) = mode.strip text := by
  rw [← String.toList_inj, toList_strip]
  exact filter_keeps_decompose (fun c member => (mem_strip.mp member).2) fun c => whole_of_mem_strip

end Text.AccentStripping

end TextFeatures
