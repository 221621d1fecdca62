import TextFeatures.Tokens.Grams

namespace TextFeatures

theorem GramSizes.ofRange_eq_ok {least most : Nat} (insideWords : Bool) (positive : 0 < least) (range : least ≤ most) :
    GramSizes.ofRange least most insideWords = .ok ⟨least, most, insideWords⟩ := by
  rw [GramSizes.ofRange, if_neg (Nat.pos_iff_ne_zero.mp positive), if_neg (Nat.not_lt.mpr range)]

namespace Grams

variable {size offset : Nat} {text padded : List Char}

theorem fits_iff : size ≤ (text.take size).length ↔ size ≤ text.length := by
  rw [List.length_take]
  omega

theorem windowsFrom_eq : windowsFrom size offset text =
    (List.range (text.length + 1 - size)).map fun start => (offset + start, (text.drop start).take size) := by
  induction text generalizing offset with
  | nil =>
    cases size with
    | zero => rfl
    | succ size => simp [windowsFrom]
  | cons c rest ih =>
    unfold windowsFrom
    split
    · rename_i fits
      rw [fits_iff, List.length_cons] at fits
      have count : (c :: rest).length + 1 - size = (rest.length + 1 - size) + 1 := by
        rw [List.length_cons]
        omega
      rw [count, List.range_succ_eq_map, List.map_cons, List.map_map]
      refine congrArg (List.cons (offset, (c :: rest).take size)) (ih.trans ?_)
      refine List.map_congr_left fun start _ => ?_
      rw [Function.comp_apply, List.drop_succ_cons, Nat.add_assoc, Nat.add_comm 1]
    · rename_i short
      rw [fits_iff, List.length_cons] at short
      have none : (c :: rest).length + 1 - size = 0 := by
        rw [List.length_cons]
        omega
      rw [none]
      rfl

theorem ofPadded_eq : ofPadded size padded =
    (List.range (padded.length - size + 1)).map fun start => (padded.drop start).take size := by
  unfold ofPadded
  split
  · rename_i short
    have single : padded.length - size + 1 = 1 := by omega
    rw [single]
    simp [List.take_of_length_le short]
  · rename_i long
    have count : padded.length + 1 - size = padded.length - size + 1 := by omega
    rw [windowsFrom_eq, List.map_map, count]
    rfl

def windows (size : Nat) (text : List Char) : List (List Char) :=
  (List.range (text.length + 1 - size)).map fun start => (text.drop start).take size

theorem length_windows : (windows size text).length = text.length + 1 - size := by
  rw [windows, List.length_map, List.length_range]

theorem length_of_mem_windows {window : List Char} (member : window ∈ windows size text) : window.length = size := by
  obtain ⟨start, among, rfl⟩ := List.mem_map.mp member
  have before := List.mem_range.mp among
  apply List.length_take_of_le
  rw [List.length_drop]
  omega

theorem ofPadded_eq_windows (shorter : size < padded.length) : ofPadded size padded = windows size padded := by
  have count : padded.length - size + 1 = padded.length + 1 - size := by omega
  rw [ofPadded_eq, windows, count]

theorem ofPadded_eq_word (longer : padded.length ≤ size) : ofPadded size padded = [padded] := if_pos longer

end Grams

end TextFeatures
