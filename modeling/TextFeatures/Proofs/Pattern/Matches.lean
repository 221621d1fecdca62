import TextFeatures.Pattern

namespace TextFeatures.Pattern

variable {text : List Char} {low mid fuel index : Nat} {before : Option Char} {thread : Thread} {threads : List Thread}
  {c s e : Cursor} {instruction : Instruction} {program : Program} {visited left : NumberSet} {found : List Match}

-- A place in a text, and one that is not before another.
structure Cursor.Within (text : List Char) (low : Nat) (c : Cursor) : Prop where
  behind : low ≤ c.index
  inside : c.index ≤ text.length
  rest : c.rest = text.drop c.index

namespace Cursor

theorem within_start : Within text 0 (start text) := ⟨Nat.le_refl _, Nat.zero_le _, rfl⟩

theorem Within.lower (within : Within text mid c) (below : low ≤ mid) : Within text low c :=
  ⟨Nat.le_trans below within.behind, within.inside, within.rest⟩

theorem Within.self (within : Within text low c) : Within text c.index c := ⟨Nat.le_refl _, within.inside, within.rest⟩

theorem Within.step {x : Char} {rest : List Char} (within : Within text low c) (more : c.rest = x :: rest) :
    Within text (c.index + 1) (c.step x rest) := by
  have ahead : text.drop c.index = x :: rest := within.rest.symm.trans more
  have inside : c.index < text.length := by
    refine Nat.lt_of_not_le fun ended => ?_
    rw [List.drop_eq_nil_of_le ended] at ahead
    cases ahead
  refine ⟨Nat.le_refl _, inside, ?_⟩
  rw [List.drop_eq_getElem_cons inside, List.cons.injEq] at ahead
  exact ahead.2.symm

end Cursor

open Cursor

def Instruction.targets : Instruction → List Nat
  | accept => []
  | one _ next => [next]
  | look _ next => [next]
  | choose preferred other => [preferred, other]

theorem of_mem_follow (next : thread ∈ instruction.follow c) : thread.step ∈ instruction.targets ∧
    (thread.cursor = c ∨ ∃ x rest, c.rest = x :: rest ∧ thread.cursor = c.step x rest) := by
  cases instruction with
  | accept => cases next
  | one accepted target =>
    simp only [Instruction.follow] at next
    split at next
    · cases next
    · rename_i x rest more
      split at next
      · obtain rfl := List.mem_singleton.mp next
        exact ⟨List.mem_singleton_self _, .inr ⟨x, rest, more, rfl⟩⟩
      · cases next
  | look l target =>
    simp only [Instruction.follow] at next
    split at next
    · obtain rfl := List.mem_singleton.mp next
      exact ⟨List.mem_singleton_self _, .inl rfl⟩
    · cases next
  | choose preferred other =>
    simp only [Instruction.follow, List.mem_cons, List.not_mem_nil, or_false] at next
    rcases next with rfl | rfl
    · exact ⟨List.mem_cons_self, .inl rfl⟩
    · exact ⟨List.mem_cons_of_mem _ List.mem_cons_self, .inl rfl⟩

-- The search goes ahead only, so that every place it waits at is at or behind the one it started from.

theorem within_follow (within : Within text low c) (next : thread ∈ instruction.follow c) :
    Within text low thread.cursor := by
  obtain ⟨_, here | ⟨x, rest, more, ahead⟩⟩ := of_mem_follow next
  · exact here ▸ within
  · exact ahead ▸ (within.step more).lower (Nat.le_succ_of_le within.behind)

theorem within_explore (waiting : ∀ thread ∈ threads, Within text low thread.cursor)
    (reached : program.explore fuel threads visited = (some e, left)) : Within text low e := by
  induction fuel generalizing threads visited with
  | zero => simp [Program.explore] at reached
  | succ fuel ih =>
    cases threads with
    | nil => simp [Program.explore] at reached
    | cons thread more =>
      obtain ⟨here, later⟩ := List.forall_mem_cons.mp waiting
      unfold Program.explore at reached
      split at reached
      · exact ih later reached
      · dsimp only at reached
        split at reached
        · exact ih later reached
        · cases reached
          exact here
        · refine ih (fun next member => ?_) reached
          rcases List.mem_append.mp member with ahead | waits
          · exact within_follow here ahead
          · exact later next waits

theorem within_matchAt (within : Within text low c) (reached : program.matchAt c visited = (some e, left)) :
    Within text c.index e :=
  within_explore (fun thread member => by rw [List.mem_singleton.mp member]; exact within.self) reached

theorem within_matchFrom {rest : List Char} (within : Within text low ⟨index, before, rest⟩)
    (matched : program.matchFrom index before visited rest = some (s, e)) :
    Within text index s ∧ Within text s.index e := by
  induction rest generalizing index before visited low with
  | nil =>
    simp only [Program.matchFrom, Option.map_eq_some_iff, Prod.mk.injEq] at matched
    obtain ⟨_, reached, rfl, rfl⟩ := matched
    exact ⟨within.self, within_matchAt within (Prod.ext reached rfl)⟩
  | cons x rest ih =>
    simp only [Program.matchFrom] at matched
    split at matched
    · rename_i reached
      cases matched
      exact ⟨within.self, within_matchAt within reached⟩
    · obtain ⟨ofStart, ofStop⟩ := ih (within.step rfl) matched
      exact ⟨ofStart.lower (Nat.le_succ _), ofStop⟩

theorem within_nextMatch (within : Within text low c) (matched : program.nextMatch c = some (s, e)) :
    Within text c.index s ∧ Within text s.index e := within_matchFrom within matched

-- Matches that stand one behind another, from a place on, each with the piece of the text that it covers.
inductive Laid (text : List Char) : Nat → List Match → Prop
  | nil {low : Nat} : low ≤ text.length → Laid text low []
  | cons {low : Nat} {found : Match} {more : List Match} : low ≤ found.start → found.start ≤ found.stop →
      found.stop ≤ text.length → found.text = (text.take found.stop).drop found.start → Laid text found.stop more →
      Laid text low (found :: more)

theorem Laid.lower (laid : Laid text mid found) (below : low ≤ mid) : Laid text low found := by
  cases laid with
  | nil inside => exact .nil (Nat.le_trans below inside)
  | cons behind ordered inside piece more => exact .cons (Nat.le_trans below behind) ordered inside piece more

theorem Laid.match {more : List Match} (ofStart : Within text low s) (ofStop : Within text s.index e)
    (later : Laid text e.index more) : Laid text low (Program.matchBetween s e :: more) := by
  refine .cons ofStart.behind ofStop.behind ofStop.inside ?_ later
  simp only [Program.matchBetween, ofStart.rest, List.drop_take]

theorem Laid.ite {more : List Match} {counts : Prop} [Decidable counts] (ofStart : Within text low s)
    (ofStop : Within text s.index e) (later : Laid text e.index more) :
    Laid text low (if counts then Program.matchBetween s e :: more else more) := by
  split
  · exact .match ofStart ofStop later
  · exact later.lower (Nat.le_trans ofStart.behind ofStop.behind)

theorem laid_matchesFrom {emptyAllowed : Bool} (within : Within text low c) :
    Laid text c.index (program.matchesFrom fuel emptyAllowed c) := by
  induction fuel generalizing emptyAllowed c low with
  | zero => exact .nil within.inside
  | succ fuel ih =>
    unfold Program.matchesFrom
    split
    · exact .nil within.inside
    · rename_i s e matched
      obtain ⟨ofStart, ofStop⟩ := within_nextMatch within matched
      split
      · exact .match ofStart ofStop (ih ofStop)
      · rename_i empty
        have here : e.index = s.index := Nat.le_antisymm (Nat.not_lt.mp empty) ofStop.behind
        cases ahead : s.rest with
        | nil => exact .ite ofStart ofStop (.nil ofStop.inside)
        | cons x rest =>
          have later : Laid text s.index (program.matchesFrom fuel true (s.step x rest)) :=
            (ih (ofStart.step ahead)).lower (Nat.le_succ _)
          exact .ite ofStart ofStop (here ▸ later)

-- Whatever the pattern is, its matches are pieces of the text, in their order, and none reaches into another.
theorem laid_findAll (pattern : Pattern) (text : String) : Laid text.toList 0 (pattern.findAll text) :=
  laid_matchesFrom within_start

theorem Laid.each (laid : Laid text low found) : ∀ one ∈ found, low ≤ one.start ∧ one.start ≤ one.stop ∧
    one.stop ≤ text.length ∧ one.text = (text.take one.stop).drop one.start := by
  induction laid with
  | nil =>
    intro one member
    cases member
  | @cons low first more behind ordered inside piece later ih =>
    intro one member
    rcases List.mem_cons.mp member with rfl | among
    · exact ⟨behind, ordered, inside, piece⟩
    · obtain ⟨past, itself⟩ := ih one among
      exact ⟨by omega, itself⟩

theorem Laid.pairwise (laid : Laid text low found) : found.Pairwise fun one next => one.stop ≤ next.start := by
  induction laid with
  | nil => exact .nil
  | cons _ _ _ _ later ih =>
    apply List.Pairwise.cons
    · intro next among
      exact (later.each next among).1
    · exact ih

end TextFeatures.Pattern
