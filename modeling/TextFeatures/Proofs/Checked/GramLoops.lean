import TextFeatures.Proofs.Checked.Terms
import TextFeatures.Proofs.Tokens.Scans

namespace TextFeatures.Checked
open Unicode Text

-- No number goes above the largest one there is, and so a sum that does is outside of them.
def plus (largest a b : Nat) : Except Stop Nat :=
  if a + b ≤ largest then .ok (a + b) else .error (.broken .outside)

theorem plus_eq_ok {largest a b : Nat} (most : a + b ≤ largest) : plus largest a b = .ok (a + b) := if_pos most

-- The grams of one size from an offset on, and the offset of the last. A gram is cut short at the end of the word. The
-- next one starts one character further, as long as there are characters behind the gram.
def slide (largest size : Nat) (padded : List Char) (offset : Nat) : Except Stop (List (List Char) × Nat) := do
  let stop ← plus largest offset size
  let gram ← slice padded offset (min stop padded.length)
  if offset + size < padded.length then
    let _ ← plus largest offset 1
    let (later, last) ← slide largest size padded (offset + 1)
    return (gram :: later, last)
  else return ([gram], offset)
termination_by padded.length - offset

-- A round for each size. No round follows one that has not left the start of the word.
def rounds (largest : Nat) (padded : List Char) : List Nat → Except Stop (List (Nat × List (List Char)))
  | [] => .ok []
  | size :: more => do
    let (grams, last) ← slide largest size padded 0
    if last = 0 then return [(size, grams)]
    else
      let later ← rounds largest padded more
      return (size, grams) :: later

def roundTokens (largest least most : Nat) (run : Nat × List Char) : Except Stop (List Token) := do
  let stop ← plus largest run.1 run.2.length
  let done ← rounds largest (' ' :: run.2 ++ [' ']) (List.range' least (most + 1 - least))
  return (done.flatMap Prod.snd).map fun gram => Token.plain (String.ofList gram) run.1 stop

def scannedGrams (largest least most : Nat) (text : List Char) : Except Stop (List Token) := do
  let grams ← (Words.offsetScanner.scan text).mapM (roundTokens largest least most)
  return grams.flatten

variable {largest least most size offset count : Nat} {text padded : List Char} {run : Nat × List Char}

-- The loop runs up to the last offset from which a gram of the size does not go beyond the word; if there is none, it
-- stays at zero.
theorem slide_eq (fits : padded.length ≤ largest) (small : size ≤ largest) (within : offset ≤ padded.length - size) :
    slide largest size padded offset =
      .ok ((List.range' offset (padded.length - size - offset + 1)).map (fun start => (padded.drop start).take size),
        padded.length - size) := by
  induction left : padded.length - size - offset generalizing offset with
  | zero =>
    have last : offset = padded.length - size := by omega
    have short : padded.length ≤ offset + size := by omega
    unfold slide
    rw [plus_eq_ok (by omega), ok_bind, Nat.min_eq_right short, slice_eq_ok (by omega) (Nat.le_refl _), ok_bind,
      if_neg (Nat.not_lt.mpr short), List.take_length, ← last, List.range'_one, List.map_singleton]
    have whole : (padded.drop offset).take size = padded.drop offset := by
      apply List.take_of_length_le
      rw [List.length_drop]
      omega
    rw [whole]
    rfl
  | succ left ih =>
    have further : offset + size < padded.length := by omega
    have later := @ih (offset + 1) (by omega) (by omega)
    unfold slide
    rw [plus_eq_ok (by omega), ok_bind, Nat.min_eq_left (Nat.le_of_lt further),
      slice_eq_ok (Nat.le_add_right _ _) (Nat.le_of_lt further), ok_bind, if_pos further, plus_eq_ok (by omega), ok_bind,
      later, List.drop_take, Nat.add_sub_cancel_left, List.range'_succ, List.map_cons]
    rfl

theorem slide_start (fits : padded.length ≤ largest) (small : size ≤ largest) :
    slide largest size padded 0 = .ok (Grams.ofPadded size padded, padded.length - size) := by
  rw [slide_eq fits small (Nat.zero_le _), Grams.ofPadded_eq, Nat.sub_zero, List.range_eq_range']

theorem rounds_eq (fits : padded.length ≤ largest) (small : least + count ≤ largest + 1) :
    rounds largest padded (List.range' least count) =
      .ok ((Grams.sizesInside padded.length least count).map fun size => (size, Grams.ofPadded size padded)) := by
  induction count generalizing least with
  | zero => rfl
  | succ count ih =>
    rw [List.range'_succ, rounds, slide_start fits (by omega), ok_bind]
    dsimp only
    by_cases long : padded.length ≤ least
    · rw [if_pos (Nat.sub_eq_zero_of_le long), Grams.sizesInside, if_pos long]
      rfl
    · rw [if_neg (by omega), ih (by omega), Grams.sizesInside, if_neg long]
      rfl

theorem roundTokens_eq (small : most ≤ largest) (range : least ≤ most) (fits : run.1 + run.2.length + 2 ≤ largest) :
    roundTokens largest least most run = .ok (Grams.ofRun least most run) := by
  have length : (' ' :: run.2 ++ [' ']).length = run.2.length + 2 := by simp
  rw [roundTokens, plus_eq_ok (by omega), ok_bind, rounds_eq (by omega) (by omega), ok_bind, Grams.ofRun]
  simp only [List.flatMap_map, List.map_flatMap]
  rfl

theorem scannedGrams_eq (small : most ≤ largest) (range : least ≤ most) (fits : text.length + 2 ≤ largest) :
    scannedGrams largest least most text = .ok (Grams.insideWords least most text) := by
  have ofRuns : (Words.runs text).mapM (roundTokens largest least most) =
      .ok ((Words.runs text).map (Grams.ofRun least most)) := by
    apply mapM_of_each
    intro run among
    obtain ⟨left, right, maximal, start⟩ := Words.mem_runs_iff.mp among
    have within := maximal.within
    exact roundTokens_eq small range (by omega)
  rw [scannedGrams, Words.scan_offsetScanner, ofRuns]
  rfl

end TextFeatures.Checked
