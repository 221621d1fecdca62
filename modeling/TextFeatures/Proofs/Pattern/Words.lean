import TextFeatures.Proofs.Pattern.Search
import TextFeatures.Proofs.Text.Runs
import TextFeatures.Text.Numbers

namespace TextFeatures.Pattern
open Unicode Text Cursor

variable {text rest : List Char} {index step next preferred other : Nat} {before : Option Char} {x : Char}
  {c s e : Cursor} {instruction : Instruction} {accepted : CharClass} {l : Look} {program : Program}
  {p : Char → Bool} {good : List Char → Bool}

theorem leads_accept (here : program.steps[step]? = some .accept) : program.Leads ⟨step, c⟩ e ↔ e = c := by
  constructor
  · rintro (_ | ⟨there, ahead, _⟩)
    · rfl
    · cases here.symm.trans there
      cases ahead
  · rintro rfl
    exact .accept here

theorem leads_iff_follow (here : program.steps[step]? = some instruction) (goesOn : instruction ≠ .accept) :
    program.Leads ⟨step, c⟩ e ↔ ∃ thread ∈ instruction.follow c, program.Leads thread e := by
  constructor
  · rintro (accepts | ⟨there, ahead, leads⟩)
    · exact absurd (Option.some.inj (here.symm.trans accepts)) goesOn
    · cases here.symm.trans there
      exact ⟨_, ahead, leads⟩
  · rintro ⟨_, ahead, leads⟩
    exact .step here ahead leads

theorem leads_choose (here : program.steps[step]? = some (.choose preferred other)) :
    program.Leads ⟨step, c⟩ e ↔ program.Leads ⟨preferred, c⟩ e ∨ program.Leads ⟨other, c⟩ e := by
  rw [leads_iff_follow here Instruction.noConfusion]
  simp [Instruction.follow]

theorem leads_look (here : program.steps[step]? = some (.look l next)) :
    program.Leads ⟨step, c⟩ e ↔ l.holds c = true ∧ program.Leads ⟨next, c⟩ e := by
  rw [leads_iff_follow here Instruction.noConfusion, Instruction.follow]
  split <;> simp_all

theorem leads_one_nil (here : program.steps[step]? = some (.one accepted next)) :
    ¬program.Leads ⟨step, ⟨index, before, []⟩⟩ e := by
  rw [leads_iff_follow here Instruction.noConfusion]
  simp [Instruction.follow]

theorem leads_one_cons (here : program.steps[step]? = some (.one accepted next)) :
    program.Leads ⟨step, ⟨index, before, x :: rest⟩⟩ e ↔
      accepted.contains x = true ∧ program.Leads ⟨next, ⟨index + 1, some x, rest⟩⟩ e := by
  rw [leads_iff_follow here Instruction.noConfusion, Instruction.follow]
  dsimp only [Cursor.step]
  split <;> simp_all

def pastFrom (p : Char → Bool) (index : Nat) (before : Option Char) : List Char → Cursor
  | [] => ⟨index, before, []⟩
  | x :: rest => if p x then pastFrom p (index + 1) (some x) rest else ⟨index, before, x :: rest⟩

theorem index_pastFrom : (pastFrom p index before rest).index = index + (rest.takeWhile p).length := by
  induction rest generalizing index before with
  | nil => rfl
  | cons x rest ih =>
    rw [pastFrom, List.takeWhile_cons]
    split
    · rw [ih, List.length_cons, Nat.add_assoc, Nat.add_comm 1]
    · rfl

theorem rest_pastFrom : (pastFrom p index before rest).rest = rest.dropWhile p := by
  induction rest generalizing index before with
  | nil => rfl
  | cons x rest ih =>
    rw [pastFrom, List.dropWhile_cons]
    split
    · exact ih
    · rfl

theorem placed_pastFrom (placed : Placed text ⟨index, before, rest⟩) : Placed text (pastFrom p index before rest) := by
  induction rest generalizing index before with
  | nil => exact placed
  | cons x rest ih =>
    rw [pastFrom]
    split
    · exact ih (placed.step rfl)
    · exact placed

theorem runsAfter_pastFrom (inside : before.any p = true) : runsAfter p index true rest =
    runsAfter p (pastFrom p index before rest).index ((pastFrom p index before rest).before.any p)
      (pastFrom p index before rest).rest := by
  induction rest generalizing index before with
  | nil => rfl
  | cons x rest ih =>
    rw [pastFrom]
    split
    · rename_i accepts
      rw [runsAfter, accepts, Bool.not_true, Bool.and_false, if_neg Bool.false_ne_true]
      exact ih accepts
    · rw [inside]

def edge : Look := .wordBoundary (.property .word)

theorem holds_edge : edge.holds c = (c.beforeIs isWord != c.afterIs isWord) := rfl

-- The end of a pattern for words: one more character of a class and as many more as there are, up to the edge.
structure Program.Loops (program : Program) (accepted : CharClass) : Prop where
  accepts : program.steps[0]? = some .accept
  leaves : program.steps[1]? = some (.look edge 0)
  chooses : program.steps[2]? = some (.choose 3 1)
  repeats : program.steps[3]? = some (.one accepted 2)
  within : ∀ x, accepted.contains x = true → isWord x = true

theorem Program.Loops.out (loops : program.Loops accepted) (notWord : isWord x = false) :
    accepted.contains x = false := by
  rw [← Bool.not_eq_true]
  intro holds
  rw [loops.within x holds] at notWord
  cases notWord

-- There is one edge only where the rest of the word can end.
theorem Program.Loops.leads_rest (loops : program.Loops accepted) (inside : before.any isWord = true) :
    program.Leads ⟨2, ⟨index, before, rest⟩⟩ e ↔
      (rest.takeWhile isWord).all accepted.contains = true ∧ e = pastFrom isWord index before rest := by
  induction rest generalizing index before with
  | nil =>
    have ends : edge.holds ⟨index, before, []⟩ = true := by simp [holds_edge, beforeIs, afterIs, inside]
    rw [leads_choose loops.chooses, leads_look loops.leaves, leads_accept loops.accepts, ends]
    simp [leads_one_nil loops.repeats, pastFrom]
  | cons x rest ih =>
    rw [leads_choose loops.chooses, leads_look loops.leaves, leads_accept loops.accepts, leads_one_cons loops.repeats,
      holds_edge, List.takeWhile_cons, pastFrom]
    simp only [beforeIs, afterIs, inside, List.head?_cons, Option.any_some]
    cases word : isWord x with
    | true =>
      rw [ih (by simpa using word)]
      simp [and_assoc]
    | false => simp [loops.out word]

theorem Program.Loops.leads_word (loops : program.Loops accepted) :
    program.Leads ⟨3, ⟨index, before, rest⟩⟩ e ↔ (rest.takeWhile isWord ≠ [] ∧
      (rest.takeWhile isWord).all accepted.contains = true) ∧ e = pastFrom isWord index before rest := by
  cases rest with
  | nil => simp [leads_one_nil loops.repeats]
  | cons x rest =>
    rw [leads_one_cons loops.repeats, List.takeWhile_cons, pastFrom]
    cases word : isWord x with
    | true =>
      rw [loops.leads_rest (by simpa using word)]
      simp [and_assoc]
    | false => simp [loops.out word]

def wordStop (good : List Char → Bool) (c : Cursor) : Option Cursor :=
  if !c.beforeIs isWord && good (c.rest.takeWhile isWord) then some (pastFrom isWord c.index c.before c.rest) else none

theorem wordStop_eq_some : wordStop good c = some e ↔ c.beforeIs isWord = false ∧
    good (c.rest.takeWhile isWord) = true ∧ e = pastFrom isWord c.index c.before c.rest := by
  rw [wordStop, Option.ite_none_right_eq_some, Bool.and_eq_true, Bool.not_eq_true', and_assoc, Option.some.injEq,
    eq_comm (a := e)]

-- At the start of a word the edge says only that no word goes on there.
theorem holds_edge_of_word (word : c.rest.takeWhile isWord ≠ []) :
    edge.holds c = true ↔ c.beforeIs isWord = false := by
  have starts : c.afterIs isWord = true := by
    unfold afterIs
    cases more : c.rest with
    | nil => simp [more] at word
    | cons x rest => exact of_takeWhile_ne_nil (more ▸ word)
  rw [holds_edge, starts]
  cases c.beforeIs isWord <;> simp

def isLong (run : List Char) : Bool := 2 ≤ run.length

def isNumber (run : List Char) : Bool := !run.isEmpty && run.all isAsciiDigit

theorem isWord_of_isAsciiDigit (digit : isAsciiDigit x = true) : isWord x = true := by
  have codes : 48 ≤ x.toNat ∧ x.toNat ≤ 57 := by
    simpa [isAsciiDigit, Char.le_def, UInt32.le_iff_toNat_le] using digit
  have ascii : isAscii x = true := by
    simp only [isAscii, decide_eq_true_eq]
    omega
  rw [isWord, ascii, if_pos rfl, isAsciiWord, digit, Bool.or_true, Bool.true_or]

def longWords : Program :=
  ⟨#[.accept, .look edge 0, .choose 3 1, .one (.property .word) 2, .one (.property .word) 3, .look edge 4], 5⟩

def numberWords : Program :=
  ⟨#[.accept, .look edge 0, .choose 3 1, .one (.range '0' '9') 2, .look edge 3], 4⟩

theorem ofText?_defaultSource : ofText? defaultSource = some ⟨defaultSource, longWords⟩ := by decide +kernel

theorem ofText?_numberSource : ofText? numberSource = some ⟨numberSource, numberWords⟩ := by decide +kernel

theorem loops_longWords : longWords.Loops (.property .word) := ⟨rfl, rfl, rfl, rfl, fun _ holds => holds⟩

theorem loops_numberWords : numberWords.Loops (.range '0' '9') :=
  ⟨rfl, rfl, rfl, rfl, fun _ holds => isWord_of_isAsciiDigit holds⟩

-- Both patterns find words between their edges.
theorem leads_edge (enters : program.steps[step]? = some (.look edge next))
    (finds : program.Leads ⟨next, c⟩ e ↔
      good (c.rest.takeWhile isWord) = true ∧ e = pastFrom isWord c.index c.before c.rest)
    (nonempty : good [] = false) : program.Leads ⟨step, c⟩ e ↔ wordStop good c = some e := by
  rw [leads_look enters, finds, wordStop_eq_some]
  refine and_congr_left fun found => holds_edge_of_word fun empty => ?_
  rw [empty, nonempty] at found
  cases found.1

theorem decided_longWords : longWords.Decided (wordStop isLong) where
  bounded := ⟨by decide, by decide⟩
  leads_iff c e := by
    refine leads_edge rfl ?_ rfl
    obtain ⟨index, before, rest⟩ := c
    cases rest with
    | nil =>
      have nowhere : ¬longWords.Leads ⟨4, ⟨index, before, []⟩⟩ e := leads_one_nil rfl
      simp [nowhere, isLong]
    | cons x rest =>
      have all : (rest.takeWhile isWord).all (CharClass.property .word).contains = true := List.all_takeWhile
      have first : (CharClass.property .word).contains x = isWord x := rfl
      rw [leads_one_cons rfl, loops_longWords.leads_word, all, first, List.takeWhile_cons, pastFrom]
      cases isWord x with
      | true => cases rest.takeWhile isWord <;> simp [isLong]
      | false => simp [isLong]

theorem decided_numberWords : numberWords.Decided (wordStop isNumber) where
  bounded := ⟨by decide, by decide⟩
  leads_iff c e := by
    refine leads_edge rfl ?_ rfl
    rw [loops_numberWords.leads_word, isNumber, Bool.and_eq_true, Bool.not_eq_true', List.isEmpty_eq_false_iff]
    rfl

def goodRuns (good : List Char → Bool) (c : Cursor) : List (Nat × List Char) :=
  (runsAfter isWord c.index (c.before.any isWord) c.rest).filter fun run => good run.2

def runMatch (run : Nat × List Char) : Match := ⟨run.1, run.1 + run.2.length, run.2⟩

structure NextRun (text : List Char) (good : List Char → Bool) (c s e : Cursor) : Prop where
  placed : Placed text e
  shorter : e.rest.length < c.rest.length
  ahead : s.index < e.index
  runs : (goodRuns good c).map runMatch = Program.matchBetween s e :: (goodRuns good e).map runMatch

theorem goodRuns_step (missed : wordStop good ⟨index, before, x :: rest⟩ = none) :
    goodRuns good ⟨index, before, x :: rest⟩ = goodRuns good ⟨index + 1, some x, rest⟩ := by
  simp only [wordStop, beforeIs, ite_eq_right_iff, Bool.and_eq_true, Bool.not_eq_true', reduceCtorEq, imp_false,
    not_and, Bool.not_eq_true] at missed
  simp only [goodRuns, runsAfter, Option.any_some]
  split
  · rename_i starts
    simp only [Bool.and_eq_true, Bool.not_eq_true'] at starts
    rw [List.filter_cons_of_neg (by simp [missed starts.2]), starts.1]
  · rfl

theorem goodRuns_start (word : isWord x = true) (outside : before.any isWord = false)
    (isGood : good ((x :: rest).takeWhile isWord) = true) : goodRuns good ⟨index, before, x :: rest⟩ =
      (index, (x :: rest).takeWhile isWord) :: goodRuns good (pastFrom isWord index before (x :: rest)) := by
  have behind : pastFrom isWord index before (x :: rest) = pastFrom isWord (index + 1) (some x) rest := by
    rw [pastFrom, word, if_pos rfl]
  rw [behind, goodRuns, goodRuns, ← runsAfter_pastFrom (show (some x).any isWord = true from word)]
  simp only [runsAfter, word, outside, Bool.not_false, Bool.and_true, if_true]
  exact List.filter_cons_of_pos isGood

theorem nextRun_here (nonempty : good [] = false) (placed : Placed text ⟨index, before, rest⟩)
    (stops : wordStop good ⟨index, before, rest⟩ = some e) :
    NextRun text good ⟨index, before, rest⟩ ⟨index, before, rest⟩ e := by
  obtain ⟨outside, isGood, rfl⟩ := wordStop_eq_some.mp stops
  dsimp only at isGood ⊢
  cases rest with
  | nil => exact absurd (nonempty.symm.trans isGood) Bool.false_ne_true
  | cons x rest =>
    have word : isWord x = true := by
      have present : (x :: rest).takeWhile isWord ≠ [] := by
        intro empty
        rw [empty, nonempty] at isGood
        cases isGood
      exact of_takeWhile_ne_nil present
    have nonemptyRun : (x :: rest).takeWhile isWord = x :: rest.takeWhile isWord := by
      rw [List.takeWhile_cons, word, if_pos rfl]
    have taken : (x :: rest).take ((x :: rest).takeWhile isWord).length = (x :: rest).takeWhile isWord :=
      (List.prefix_iff_eq_take.mp (List.takeWhile_prefix _)).symm
    refine ⟨placed_pastFrom placed, ?_, ?_, ?_⟩
    · rw [rest_pastFrom, List.dropWhile_cons, word, if_pos rfl, List.length_cons]
      exact Nat.lt_succ_of_le (List.dropWhile_sublist _).length_le
    · rw [index_pastFrom, nonemptyRun, List.length_cons]
      exact Nat.lt_add_of_pos_right (Nat.succ_pos _)
    · rw [goodRuns_start word outside isGood, List.map_cons, Program.matchBetween, index_pastFrom,
        Nat.add_sub_cancel_left, taken]
      rfl

theorem nextRun_of_firstFrom (nonempty : good [] = false) (placed : Placed text ⟨index, before, rest⟩)
    (found : firstFrom (wordStop good) index before rest = some (s, e)) :
    NextRun text good ⟨index, before, rest⟩ s e := by
  induction rest generalizing index before with
  | nil =>
    simp only [firstFrom, Option.map_eq_some_iff, Prod.mk.injEq] at found
    obtain ⟨_, stops, rfl, rfl⟩ := found
    exact nextRun_here nonempty placed stops
  | cons x rest ih =>
    rw [firstFrom] at found
    cases stops : wordStop good ⟨index, before, x :: rest⟩ with
    | some stop =>
      rw [stops] at found
      cases found
      exact nextRun_here nonempty placed stops
    | none =>
      rw [stops] at found
      have later := ih (placed.step rfl) found
      exact ⟨later.placed, Nat.lt_succ_of_lt later.shorter, later.ahead, goodRuns_step stops ▸ later.runs⟩

theorem goodRuns_of_firstFrom (missed : firstFrom (wordStop good) index before rest = none) :
    goodRuns good ⟨index, before, rest⟩ = [] := by
  induction rest generalizing index before with
  | nil => rfl
  | cons x rest ih =>
    rw [firstFrom] at missed
    cases stops : wordStop good ⟨index, before, x :: rest⟩ with
    | some stop => simp [stops] at missed
    | none =>
      rw [stops] at missed
      rw [goodRuns_step stops, ih missed]

theorem matchesFrom_of_decided {fuel : Nat} {emptyAllowed : Bool} (decided : program.Decided (wordStop good))
    (nonempty : good [] = false) (placed : Placed text c) (enough : c.rest.length < fuel) :
    program.matchesFrom fuel emptyAllowed c = (goodRuns good c).map runMatch := by
  induction fuel generalizing c emptyAllowed with
  | zero => cases enough
  | succ fuel ih =>
    rw [Program.matchesFrom, nextMatch_of_decided decided placed]
    cases found : firstFrom (wordStop good) c.index c.before c.rest with
    | none =>
      rw [goodRuns_of_firstFrom found]
      rfl
    | some between =>
      obtain ⟨s, e⟩ := between
      have next : NextRun text good c s e := nextRun_of_firstFrom nonempty placed found
      dsimp only
      rw [if_pos next.ahead, ih next.placed (Nat.lt_of_lt_of_le next.shorter (Nat.le_of_lt_succ enough)), next.runs]

-- The matches of a pattern for words are the maximal runs of word characters that are good.
theorem findAll_of_decided (decided : program.Decided (wordStop good)) (nonempty : good [] = false) :
    program.findAll text = ((runsAfter isWord 0 false text).filter fun run => good run.2).map runMatch :=
  matchesFrom_of_decided decided nonempty placed_start (Nat.lt_succ_self _)

end TextFeatures.Pattern
