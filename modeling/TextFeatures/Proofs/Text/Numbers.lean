import TextFeatures.Proofs.Pattern.Words

namespace TextFeatures

namespace Pattern
open Unicode Text

variable {replacement left rest word text : List Char} {offset : Nat} {found : List Match} {c : Char}
  {good : List Char → Bool}

theorem spliceFrom_append (behind : ∀ one ∈ found, offset + left.length ≤ one.start ∧ one.start ≤ one.stop) :
    spliceFrom replacement offset (left ++ rest) found =
      left ++ spliceFrom replacement (offset + left.length) rest found := by
  cases found with
  | nil => rfl
  | cons one more =>
    obtain ⟨later, ordered⟩ := behind one List.mem_cons_self
    rw [spliceFrom, spliceFrom, List.take_append, List.drop_append, List.take_of_length_le (by omega),
      List.drop_eq_nil_of_le (by omega), List.nil_append, Nat.sub_add_eq, Nat.sub_add_eq]
    simp only [List.append_assoc]

def matchedRuns (good : List Char → Bool) (offset : Nat) (text : List Char) : List Match :=
  ((runsAfter isWord offset false text).filter fun run => good run.2).map runMatch

theorem matchedRuns_behind : ∀ one ∈ matchedRuns good offset text, offset ≤ one.start ∧ one.start ≤ one.stop := by
  intro one member
  obtain ⟨run, among, rfl⟩ := List.mem_map.mp member
  exact ⟨le_of_mem_runsAfter (List.mem_of_mem_filter among), Nat.le_add_right _ _⟩

def replaced (good : List Char → Bool) (replacement word : List Char) : List Char :=
  if good word then replacement else word

theorem splice_stretch {more : List Match} (nonempty : good [] = false)
    (behind : ∀ one ∈ more, offset + word.length ≤ one.start ∧ one.start ≤ one.stop) :
    spliceFrom replacement offset (word ++ rest)
        (((stretchRun offset word).filter fun run => good run.2).map runMatch ++ more) =
      replaced good replacement word ++ spliceFrom replacement (offset + word.length) rest more := by
  cases isGood : good word with
  | false =>
    have none : (stretchRun offset word).filter (fun run => good run.2) = [] := by
      unfold stretchRun
      split <;> simp [isGood]
    rw [none, List.map_nil, List.nil_append, spliceFrom_append behind, replaced, isGood]
    rfl
  | true =>
    have here : stretchRun offset word = [(offset, word)] := by
      refine if_neg fun empty => ?_
      rw [List.isEmpty_iff.mp empty, nonempty] at isGood
      cases isGood
    simp [here, isGood, runMatch, spliceFrom, replaced]

theorem splice_whole (nonempty : good [] = false) (all : ∀ c ∈ word, isWord c = true) :
    spliceFrom replacement offset word (matchedRuns good offset word) = replaced good replacement word := by
  have spliced : spliceFrom replacement offset (word ++ [])
      (((stretchRun offset word).filter fun run => good run.2).map runMatch ++ []) =
        replaced good replacement word ++ spliceFrom replacement (offset + word.length) [] [] :=
    splice_stretch nonempty nofun
  rw [List.append_nil, List.append_nil, spliceFrom, List.append_nil] at spliced
  rw [matchedRuns, runsAfter_whole all, spliced]

theorem splice_cut (nonempty : good [] = false) (all : ∀ c ∈ word, isWord c = true) (out : isWord c = false) :
    spliceFrom replacement offset (word ++ c :: rest) (matchedRuns good offset (word ++ c :: rest)) =
      replaced good replacement word ++ c :: spliceFrom replacement (offset + word.length + 1) rest
        (matchedRuns good (offset + word.length + 1) rest) := by
  have later : ∀ one ∈ matchedRuns good (offset + word.length + 1) rest,
      offset + word.length + 1 ≤ one.start ∧ one.start ≤ one.stop := matchedRuns_behind
  have behind : spliceFrom replacement (offset + word.length) ([c] ++ rest)
      (matchedRuns good (offset + word.length + 1) rest) =
        [c] ++ spliceFrom replacement (offset + word.length + 1) rest
          (matchedRuns good (offset + word.length + 1) rest) := spliceFrom_append later
  rw [matchedRuns, runsAfter_cut all out, List.filter_append, List.map_append]
  refine (splice_stretch nonempty fun one member => ?_).trans (congrArg (replaced good replacement word ++ ·) behind)
  exact ⟨Nat.le_of_succ_le (later one member).1, (later one member).2⟩

-- Words are replaced by words, one by one.
theorem runs_splice (nonempty : good [] = false) (ofWords : ∀ c ∈ replacement, isWord c = true)
    (present : replacement ≠ []) :
    runs isWord (spliceFrom replacement offset text (matchedRuns good offset text)) =
      (runs isWord text).map (replaced good replacement) := by
  refine runs_of_cut offset (f := fun offset text => spliceFrom replacement offset text (matchedRuns good offset text))
    ?_ ?_ (fun _ _ => splice_whole nonempty) (fun _ _ _ _ => splice_cut nonempty)
  · rw [replaced, nonempty]
    rfl
  · intro word nonemptyWord all
    rw [replaced]
    split
    · exact ⟨present, ofWords⟩
    · exact ⟨nonemptyWord, all⟩

def collapsed (word : List Char) : List Char := replaced isNumber numberMarker.toList word

theorem toList_collapseNumbers {text : String} : (collapseNumbers text).toList =
    spliceFrom numberMarker.toList 0 text.toList (matchedRuns isNumber 0 text.toList) := by
  rw [collapseNumbers, ofText?_numberSource]
  dsimp only [replaceAll, Pattern.findAll]
  rw [findAll_of_decided decided_numberWords rfl, String.toList_ofList]
  rfl

theorem toList_numberMarker : numberMarker.toList = ['_', '_', 'N', 'U', 'M', 'B', 'E', 'R', '_', '_'] :=
  String.toList_ofList

theorem runs_collapseNumbers {text : String} :
    runs isWord (collapseNumbers text).toList = (runs isWord text.toList).map collapsed := by
  have ofWords : numberMarker.toList.all isWord = true := by
    rw [toList_numberMarker]
    rfl
  have present : numberMarker.toList ≠ [] := by
    rw [toList_numberMarker]
    exact List.cons_ne_nil _ _
  rw [toList_collapseNumbers]
  exact runs_splice rfl (List.all_eq_true.mp ofWords) present

def defaultPattern : Pattern := ⟨defaultSource, longWords⟩

theorem compile_defaultSource : compile defaultSource = .ok defaultPattern := by
  rw [compile, ofText?_defaultSource]
  rfl

theorem textsOf_tokens_default {text : String} :
    textsOf (defaultPattern.tokens text) = ((runs isWord text.toList).filter isLong).map String.ofList := by
  have found : defaultPattern.findAll text =
      ((runsAfter isWord 0 false text.toList).filter fun run => isLong run.2).map runMatch :=
    findAll_of_decided decided_longWords rfl
  rw [textsOf, tokens, found, runs, List.filter_map, List.map_map, List.map_map, List.map_map]
  rfl

end Pattern

end TextFeatures
