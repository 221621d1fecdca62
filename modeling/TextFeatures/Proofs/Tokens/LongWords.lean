import TextFeatures.Proofs.Checked.Offsets
import TextFeatures.Proofs.Text.Numbers

namespace TextFeatures

namespace Text

variable {p : Char → Bool} {offset : Nat} {inside : Bool} {c : Char} {text left word right : List Char}
  {run : Nat × List Char}

-- A run of characters that satisfy `p`, between what is in front of it and what is behind it. It cannot be made longer
-- at either end. Where nothing is in front, `inside` tells whether the text itself goes on such a run.
structure MaximalRun (p : Char → Bool) (inside : Bool) (text left word right : List Char) : Prop where
  parts : text = left ++ word ++ right
  nonempty : word ≠ []
  all : ∀ c ∈ word, p c = true
  before : left.getLast?.elim inside p = false
  behind : right.head?.any p = false

theorem takeWhile_run (all : ∀ c ∈ word, p c = true) (behind : right.head?.any p = false) :
    (word ++ right).takeWhile p = word := by
  rw [List.takeWhile_append_of_pos all]
  cases right with
  | nil => exact List.append_nil word
  | cons c more =>
    have out : p c = false := behind
    simp [out]

theorem maximalRun_takeWhile (starts : p c = true) :
    MaximalRun p false (c :: text) [] ((c :: text).takeWhile p) ((c :: text).dropWhile p) := by
  refine ⟨?_, ?_, ?_, rfl, ?_⟩
  · rw [List.nil_append, List.takeWhile_append_dropWhile]
  · simp [starts]
  · intro d among
    exact List.mem_takeWhile_imp among
  · cases first : ((c :: text).dropWhile p).head? with
    | none => rfl
    | some d => exact head_dropWhile first

theorem MaximalRun.first (maximal : MaximalRun p inside (c :: text) [] word right) :
    p c = true ∧ inside = false ∧ (c :: text).takeWhile p = word := by
  have taken : (c :: text).takeWhile p = word := by
    rw [maximal.parts]
    exact takeWhile_run maximal.all maximal.behind
  exact ⟨of_takeWhile_ne_nil (taken ▸ maximal.nonempty), maximal.before, taken⟩

theorem maximalRun_cons_iff :
    MaximalRun p inside (c :: text) (c :: left) word right ↔ MaximalRun p (p c) text left word right := by
  have before : (c :: left).getLast?.elim inside p = left.getLast?.elim (p c) p := by
    cases left <;> rfl
  constructor
  · intro maximal
    exact ⟨List.tail_eq_of_cons_eq maximal.parts, maximal.nonempty, maximal.all, before ▸ maximal.before,
      maximal.behind⟩
  · intro maximal
    refine ⟨?_, maximal.nonempty, maximal.all, before ▸ maximal.before, maximal.behind⟩
    rw [maximal.parts]
    rfl

theorem runsAfter_cons : runsAfter p offset inside (c :: text) =
    (if p c && !inside then [(offset, (c :: text).takeWhile p)] else []) ++ runsAfter p (offset + 1) (p c) text := by
  rw [runsAfter]
  split
  · rename_i starts
    simp only [Bool.and_eq_true] at starts
    rw [starts.1]
    rfl
  · rfl

theorem mem_runsAfter_iff : run ∈ runsAfter p offset inside text ↔
    ∃ left right, MaximalRun p inside text left run.2 right ∧ run.1 = offset + left.length := by
  induction text generalizing offset inside with
  | nil =>
    constructor
    · intro member
      cases member
    · rintro ⟨left, right, maximal, _⟩
      have parts := maximal.parts
      simp [maximal.nonempty] at parts
  | cons c text ih =>
    rw [runsAfter_cons, List.mem_append, ih]
    constructor
    · rintro (here | ⟨left, right, maximal, start⟩)
      · split at here
        · rename_i starts
          simp only [Bool.and_eq_true, Bool.not_eq_true'] at starts
          obtain rfl := List.mem_singleton.mp here
          obtain ⟨starts, rfl⟩ := starts
          exact ⟨[], _, maximalRun_takeWhile starts, rfl⟩
        · cases here
      · refine ⟨c :: left, right, maximalRun_cons_iff.mpr maximal, ?_⟩
        rw [start, List.length_cons]
        omega
    · rintro ⟨left, right, maximal, start⟩
      cases left with
      | nil =>
        obtain ⟨starts, rfl, taken⟩ := maximal.first
        left
        rw [starts, taken, Bool.not_false, Bool.and_true, if_pos rfl, List.mem_singleton]
        exact Prod.ext start rfl
      | cons d left =>
        obtain rfl : c = d := (List.cons.inj maximal.parts).1
        refine .inr ⟨left, right, maximalRun_cons_iff.mp maximal, ?_⟩
        rw [start, List.length_cons]
        omega

-- Something is between any two runs.
theorem runsAfter_ordered :
    (runsAfter p offset false text).Pairwise fun one next => one.1 + one.2.length < next.1 := by
  induction text using stretch_induction p generalizing offset with
  | whole word all =>
    rw [runsAfter_whole all]
    unfold stretchRun
    split <;> simp
  | cut word c rest all out ih =>
    rw [runsAfter_cut all out, List.pairwise_append]
    refine ⟨?_, ih, ?_⟩
    · unfold stretchRun
      split <;> simp
    · intro one first next later
      have behind := le_of_mem_runsAfter later
      unfold stretchRun at first
      split at first
      · cases first
      · obtain rfl := List.mem_singleton.mp first
        exact behind

end Text

namespace Pattern
open Unicode Text

theorem tokens_defaultPattern {text : String} : defaultPattern.tokens text =
    ((runsAfter isWord 0 false text.toList).filter fun run => isLong run.2).map Words.runToken := by
  have found : defaultPattern.findAll text =
      ((runsAfter isWord 0 false text.toList).filter fun run => isLong run.2).map runMatch :=
    findAll_of_decided decided_longWords rfl
  rw [tokens, found, List.map_map]
  rfl

-- The default pattern finds the words of two or more characters, one behind another, each where it stands.
theorem default_tokens_exact : ∃ pattern, compile defaultSource = .ok pattern ∧ ∀ text : String,
    Checked.tokens pattern text = .ok (pattern.tokens text) ∧
    (pattern.tokens text).Pairwise (fun one next => one.stop < next.start) ∧
    ∀ token, token ∈ pattern.tokens text ↔ ∃ left word right, MaximalRun isWord false text.toList left word right ∧
      2 ≤ word.length ∧ token = Token.plain (String.ofList word) left.length (left.length + word.length) := by
  refine ⟨defaultPattern, compile_defaultSource, ?_⟩
  intro text
  refine ⟨Checked.tokens_eq, ?_⟩
  rw [tokens_defaultPattern]
  constructor
  · rw [List.pairwise_map]
    apply List.Pairwise.filter
    exact runsAfter_ordered
  · intro token
    simp only [List.mem_map, List.mem_filter, mem_runsAfter_iff, isLong, decide_eq_true_eq]
    constructor
    · rintro ⟨run, ⟨⟨left, right, maximal, start⟩, long⟩, rfl⟩
      refine ⟨left, run.2, right, maximal, long, ?_⟩
      rw [Words.runToken, start, Nat.zero_add]
    · rintro ⟨left, word, right, maximal, long, rfl⟩
      exact ⟨(left.length, word), ⟨⟨left, right, maximal, (Nat.zero_add _).symm⟩, long⟩, rfl⟩

end Pattern

end TextFeatures
