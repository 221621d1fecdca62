import TextFeatures.Proofs.Checked.Access
import TextFeatures.Proofs.Pattern.Matches
import TextFeatures.Proofs.Tokens.Blanks
import TextFeatures.Proofs.Tokens.Windows
import TextFeatures.Vectorizer.Analysis

namespace TextFeatures.Checked

section Blanks
open Unicode

-- Where the blanks from a place on come to an end.
def blanksStop (text : List Char) (j : Nat) : Nat :=
  if inside : j < text.length then
    if isBlank text[j] then blanksStop text (j + 1) else j
  else j
termination_by text.length - j

variable {text : List Char} {i j : Nat}

theorem blanksStop_eq : blanksStop text j = j + ((text.drop j).takeWhile isBlank).length := by
  fun_induction blanksStop text j with
  | case1 j inside blank ih =>
    rw [ih, List.drop_eq_getElem_cons inside, List.takeWhile_cons_of_pos blank, List.length_cons, Nat.add_assoc,
      Nat.add_comm 1]
  | case2 j inside solid =>
    rw [List.drop_eq_getElem_cons inside, List.takeWhile_cons_of_neg solid]
    rfl
  | case3 j outside =>
    rw [List.drop_eq_nil_of_le (Nat.le_of_not_lt outside)]
    rfl

theorem drop_blanksStop : text.drop (blanksStop text i) = (text.drop i).dropWhile isBlank := by
  have behind : ((text.drop i).takeWhile isBlank ++ (text.drop i).dropWhile isBlank).drop
      ((text.drop i).takeWhile isBlank).length = (text.drop i).dropWhile isBlank := List.drop_left
  rw [List.takeWhile_append_dropWhile, List.drop_drop] at behind
  rw [blanksStop_eq, behind]

theorem lt_blanksStop (inside : i < text.length) (blank : isBlank text[i] = true) : i < blanksStop text i := by
  rw [blanksStop_eq, List.drop_eq_getElem_cons inside, List.takeWhile_cons_of_pos blank, List.length_cons]
  omega

-- What the text from a place on is collapsed to.
def collapsedFrom (text : List Char) (i : Nat) : Except Stop (List Char) :=
  if inside : i < text.length then
    if blank : isBlank text[i] then do
      let length ← minus (blanksStop text i) i
      let later ← collapsedFrom text (blanksStop text i)
      return (if 2 ≤ length then ' ' else text[i]) :: later
    else do
      let later ← collapsedFrom text (i + 1)
      return text[i] :: later
  else .ok []
termination_by text.length - i
decreasing_by
  · have further := lt_blanksStop inside blank
    omega
  · omega

theorem collapsedFrom_eq : collapsedFrom text i = .ok (Grams.collapseBlanks (text.drop i)) := by
  fun_induction collapsedFrom text i with
  | case1 i inside blank ih =>
    have further := lt_blanksStop inside blank
    have length : blanksStop text i - i = ((text.drop i).takeWhile isBlank).length := by
      rw [blanksStop_eq, Nat.add_sub_cancel_left]
    rw [minus_eq_ok (Nat.le_of_lt further), ok_bind, ih, ok_bind, drop_blanksStop, length,
      List.drop_eq_getElem_cons inside, Grams.collapseBlanks_blank blank]
    rfl
  | case2 i inside solid ih =>
    rw [ih, ok_bind, List.drop_eq_getElem_cons inside,
      Grams.collapseBlanks_unbroken (Bool.eq_false_iff.mpr solid)]
    rfl
  | case3 i outside =>
    rw [List.drop_eq_nil_of_le (Nat.le_of_not_lt outside)]
    rfl

end Blanks

section Grams

def windowGrams (size : Nat) (text : List Char) : Except Stop (List Token) := do
  let last ← minus text.length size
  (List.range (last + 1)).mapM fun start => do
    let gram ← slice text start (start + size)
    return Token.plain (String.ofList gram) start (start + size)

def collapsedGrams (least most : Nat) (text : List Char) : Except Stop (List Token) := do
  let collapsed ← collapsedFrom text 0
  let grams ← (Grams.sizesUpTo least (min most collapsed.length)).mapM fun size => windowGrams size collapsed
  return grams.flatten

-- Grams start at zero, and behind every place from which one more does not come to the end.
def offsets (size length : Nat) : List Nat :=
  0 :: ((List.range length).filter fun offset => offset + size < length).map (· + 1)

def paddedGrams (size : Nat) (padded : List Char) : Except Stop (List (List Char)) :=
  (offsets size padded.length).mapM fun offset => slice padded offset (min (offset + size) padded.length)

def runGrams (least most : Nat) (run : Nat × List Char) : Except Stop (List Token) := do
  let padded := ' ' :: run.2 ++ [' ']
  let grams ← (Grams.sizesInside padded.length least (most + 1 - least)).mapM fun size => paddedGrams size padded
  return grams.flatten.map fun gram => Token.plain (String.ofList gram) run.1 (run.1 + run.2.length)

def gramTokens (sizes : GramSizes) (text : String) : Except Stop (List Token) :=
  if sizes.insideWords then do
    let grams ← (Words.runs text.toList).mapM (runGrams sizes.least sizes.most)
    return grams.flatten
  else collapsedGrams sizes.least sizes.most text.toList

variable {least most size : Nat} {text padded : List Char}

theorem windowGrams_eq (fits : size ≤ text.length) :
    windowGrams size text = .ok ((Grams.windowsFrom size 0 text).map (Grams.windowToken size)) := by
  have count : text.length + 1 - size = text.length - size + 1 := by omega
  rw [windowGrams, minus_eq_ok fits, ok_bind, Grams.windowsFrom_eq, List.map_map, count]
  refine mapM_of_each fun start among => ?_
  have before := List.mem_range.mp among
  rw [slice_eq_ok (Nat.le_add_right start size) (by omega), ok_bind, List.drop_take, Nat.add_sub_cancel_left]
  simp [Grams.windowToken]

theorem collapsedGrams_eq : collapsedGrams least most text = .ok (Grams.plain least most text) := by
  rw [collapsedGrams, collapsedFrom_eq, ok_bind, List.drop_zero, Grams.plain]
  generalize Grams.collapseBlanks text = collapsed
  have ofSizes : (Grams.sizesUpTo least (min most collapsed.length)).mapM (fun size => windowGrams size collapsed) =
      .ok ((Grams.sizesUpTo least (min most collapsed.length)).map fun size =>
        (Grams.windowsFrom size 0 collapsed).map (Grams.windowToken size)) := by
    refine mapM_of_each fun size member => windowGrams_eq ?_
    simp only [Grams.sizesUpTo, List.mem_range'_1] at member
    omega
  rw [ofSizes]
  rfl

theorem filter_range_lt {bound count : Nat} (within : bound ≤ count) :
    (List.range count).filter (· < bound) = List.range bound := by
  induction count with
  | zero =>
    obtain rfl : bound = 0 := by omega
    rfl
  | succ count ih =>
    rw [List.range_succ, List.filter_append]
    by_cases last : count < bound
    · obtain rfl : bound = count + 1 := by omega
      have all : (List.range count).filter (· < count + 1) = List.range count := by
        refine List.filter_eq_self.mpr fun i member => ?_
        have := List.mem_range.mp member
        simp only [decide_eq_true_eq]
        omega
      rw [all, List.range_succ]
      simp
    · rw [ih (by omega)]
      simp [last]

theorem offsets_eq {length : Nat} : offsets size length = List.range (length - size + 1) := by
  have before : (fun offset => decide (offset + size < length)) = fun offset => decide (offset < length - size) := by
    funext offset
    exact decide_eq_decide.mpr (by omega)
  rw [offsets, before, filter_range_lt (Nat.sub_le length size), List.range_succ_eq_map]

theorem paddedGrams_eq : paddedGrams size padded = .ok (Grams.ofPadded size padded) := by
  rw [paddedGrams, offsets_eq, Grams.ofPadded_eq]
  refine mapM_of_each fun start among => ?_
  have before := List.mem_range.mp among
  rw [slice_eq_ok (by omega) (Nat.min_le_right _ _), List.drop_take]
  refine congrArg Except.ok (List.take_eq_take_iff.mpr ?_)
  rw [List.length_drop]
  omega

theorem runGrams_eq {run : Nat × List Char} : runGrams least most run = .ok (Grams.ofRun least most run) := by
  simp only [runGrams, mapM_of_each fun size _ => paddedGrams_eq, ok_bind, pure_eq_ok, Grams.ofRun, List.flatMap,
    List.map_flatten, List.map_map]
  rfl

theorem gramTokens_eq {sizes : GramSizes} {text : String} : gramTokens sizes text = .ok (sizes.tokens text) := by
  unfold gramTokens GramSizes.tokens
  split
  · simp only [mapM_of_each fun run _ => runGrams_eq, ok_bind, pure_eq_ok, Grams.insideWords, List.flatMap]
  · exact collapsedGrams_eq

end Grams

section Words

def windows (size : Nat) (words : List String) : Except Stop (List (List String)) :=
  if size = 0 then .error (.broken .emptyWindow) else .ok (wordWindows size words)

def wordGrams (least most : Nat) (words : List String) : Except Stop (List String) :=
  if most = 1 then .ok words
  else do
    let (singles, least) := if least = 1 then (words, 2) else ([], least)
    let grams ← (List.range' least (min most words.length + 1 - least)).mapM fun size => windows size words
    return singles ++ grams.flatten.map joined

variable {least most size : Nat} {words found : List String}

theorem windows_eq (positive : 0 < size) : windows size words = .ok (wordWindows size words) :=
  if_neg (Nat.ne_of_gt positive)

theorem mapM_windows {start count : Nat} (positive : 0 < start) :
    (List.range' start count).mapM (fun size => windows size words) =
      .ok ((List.range' start count).map fun size => wordWindows size words) := by
  refine mapM_of_each fun size member => windows_eq ?_
  rw [List.mem_range'_1] at member
  omega

theorem wordGramsOfSizes_eq {sizes : List Nat} :
    wordGramsOfSizes sizes words = (sizes.map fun size => wordWindows size words).flatten.map joined := by
  simp only [wordGramsOfSizes, List.flatMap, List.map_flatten, List.map_map]
  rfl

theorem wordGrams_eq (given : TextFeatures.wordGrams least most words = .ok found) :
    wordGrams least most words = .ok found := by
  unfold TextFeatures.wordGrams at given
  unfold wordGrams
  by_cases single : most = 1
  · rw [if_pos single] at given ⊢
    exact congrArg Except.ok (Except.ok.inj given)
  · simp only [single, if_false, wordGramsOfSizes_eq] at given ⊢
    by_cases first : least = 1
    · simp only [first, if_true] at given ⊢
      rw [mapM_windows Nat.two_pos]
      exact congrArg Except.ok (Except.ok.inj given)
    · simp only [first, if_false] at given ⊢
      split at given
      · cases given
      · rename_i positive
        rw [mapM_windows (Nat.pos_of_ne_zero positive)]
        exact congrArg Except.ok (Except.ok.inj given)

end Words

section Matches
open Pattern

-- The pieces between the matches are measured, and those that are matched are tokens.
def matchTokens (text : List Char) (last counted : Nat) : List Match → Except Stop (List Token)
  | [] => .ok []
  | found :: more => do
    let gap ← slice text last found.start
    let own ← slice text found.start found.stop
    let start := counted + gap.length
    let later ← matchTokens text found.stop (start + own.length) more
    return Token.plain (String.ofList own) start (start + own.length) :: later

def spliced (replacement text : List Char) (last : Nat) : List Match → Except Stop (List Char)
  | [] => slice text last text.length
  | found :: more => do
    let gap ← slice text last found.start
    let later ← spliced replacement text found.stop more
    return gap ++ replacement ++ later

def collapseNumbers (text : String) : Except Stop String :=
  match Pattern.ofText? Text.numberSource with
  | none => .ok text
  | some pattern => do
    let collapsed ← spliced Text.numberMarker.toList text.toList 0 (pattern.findAll text)
    return String.ofList collapsed

variable {text replacement : List Char} {low : Nat} {found : List Match}

theorem matchTokens_eq (laid : Laid text low found) : matchTokens text low low found = .ok (found.map matchToken) := by
  induction laid with
  | nil => rfl
  | @cons low found more behind ordered inside piece later ih =>
    have gap : low + ((text.take found.start).drop low).length = found.start := by
      simp only [List.length_drop, List.length_take]
      omega
    have own : found.start + found.text.length = found.stop := by
      simp only [piece, List.length_drop, List.length_take]
      omega
    rw [matchTokens, slice_eq_ok behind (Nat.le_trans ordered inside), ok_bind, slice_eq_ok ordered inside, ok_bind,
      ← piece, gap]
    dsimp only
    rw [own, ih]
    rfl

theorem spliced_eq (laid : Laid text low found) :
    spliced replacement text low found = .ok (spliceFrom replacement low (text.drop low) found) := by
  induction laid with
  | nil within => rw [spliced, slice_eq_ok within (Nat.le_refl _), List.take_length, spliceFrom]
  | @cons low found more behind ordered inside piece later ih =>
    have ahead : (text.drop low).drop (found.stop - low) = text.drop found.stop := by
      rw [List.drop_drop, Nat.add_sub_cancel' (Nat.le_trans behind ordered)]
    rw [spliced, slice_eq_ok behind (Nat.le_trans ordered inside), ok_bind, ih, ok_bind, spliceFrom, ahead,
      List.drop_take]
    rfl

theorem collapseNumbers_eq {text : String} : collapseNumbers text = .ok (Text.collapseNumbers text) := by
  unfold collapseNumbers Text.collapseNumbers
  cases Pattern.ofText? Text.numberSource with
  | none => rfl
  | some pattern =>
    dsimp only
    rw [spliced_eq (laid_findAll _ _)]
    rfl

end Matches

def wordTokens (normalizer : Normalizer) (pattern : Pattern) (document : String) : Except Stop (List Token) := do
  let collapsed ← collapseNumbers (normalizer.preprocess document)
  matchTokens collapsed.toList 0 0 (pattern.findAll collapsed)

def terms (normalizer : Normalizer) (vocabulary : Option Vocabulary) (document : String) :
    Analysis → Except Stop (List String)
  | .words pattern stopWords least most => do
    let tokens ← wordTokens normalizer pattern document
    wordGrams least most (textsOf (Analysis.dropStopWords stopWords (Analysis.substitute normalizer vocabulary tokens)))
  | .grams sizes => do
    let tokens ← gramTokens sizes (normalizer.preprocess document)
    return textsOf tokens

variable {normalizer : Normalizer} {pattern : Pattern} {vocabulary? : Option Vocabulary} {document : String}
  {analysis : Analysis} {found : List String}

theorem wordTokens_eq :
    wordTokens normalizer pattern document = .ok (Analysis.wordTokens normalizer pattern document) := by
  rw [wordTokens, collapseNumbers_eq, ok_bind, matchTokens_eq (Pattern.laid_findAll _ _)]
  rfl

theorem terms_eq (given : analysis.terms normalizer vocabulary? document = .ok found) :
    terms normalizer vocabulary? document analysis = .ok found := by
  cases analysis with
  | words pattern stopWords least most =>
    rw [terms, wordTokens_eq, ok_bind]
    exact wordGrams_eq given
  | grams sizes =>
    rw [terms, gramTokens_eq, ok_bind, pure_eq_ok]
    exact congrArg Except.ok (Except.ok.inj given)

end TextFeatures.Checked
