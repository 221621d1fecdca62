import Mathlib.Data.Finset.Card
import Mathlib.Order.Interval.Finset.Nat
import TextFeatures.Proofs.Pattern.Matches

namespace TextFeatures.Pattern

variable {text : List Char} {low fuel n : Nat} {thread next : Thread} {threads waiting : List Thread}
  {c d e : Cursor} {instruction : Instruction} {program : Program} {visited left : NumberSet}

-- Where a search may come to that waits at a step and a place, with no regard to the order in which it tries things
-- and to what it has tried before.
inductive Program.Leads (program : Program) : Thread → Cursor → Prop
  | accept {thread : Thread} : program.steps[thread.step]? = some .accept → Leads program thread thread.cursor
  | step {thread next : Thread} {instruction : Instruction} {e : Cursor} :
      program.steps[thread.step]? = some instruction → next ∈ instruction.follow thread.cursor →
      Leads program next e → Leads program thread e

theorem leads_of_explore (reached : program.explore fuel threads visited = (some e, left)) :
    ∃ thread ∈ threads, program.Leads thread e := by
  induction fuel generalizing threads visited with
  | zero => simp [Program.explore] at reached
  | succ fuel ih =>
    cases threads with
    | nil => simp [Program.explore] at reached
    | cons thread waiting =>
      have later (found : ∃ other ∈ waiting, program.Leads other e) :
          ∃ other ∈ thread :: waiting, program.Leads other e := by
        obtain ⟨other, member, leads⟩ := found
        exact ⟨other, List.mem_cons_of_mem _ member, leads⟩
      unfold Program.explore at reached
      split at reached
      · exact later (ih reached)
      · dsimp only at reached
        split at reached
        · exact later (ih reached)
        · rename_i accepts
          cases reached
          exact ⟨thread, List.mem_cons_self, .accept accepts⟩
        · rename_i instruction _ here
          obtain ⟨other, member, leads⟩ := ih reached
          rcases List.mem_append.mp member with ahead | waits
          · exact ⟨thread, List.mem_cons_self, .step here ahead leads⟩
          · exact later ⟨other, waits, leads⟩

structure Cursor.Placed (text : List Char) (c : Cursor) : Prop extends Within text 0 c where
  before : c.before = (text.take c.index).getLast?

namespace Cursor

theorem placed_start : Placed text (start text) := ⟨within_start, rfl⟩

theorem Placed.unique (one : Placed text c) (other : Placed text d) (same : c.index = d.index) : c = d := by
  have before : c.before = d.before := by rw [one.before, other.before, same]
  have rest : c.rest = d.rest := by rw [one.rest, other.rest, same]
  obtain ⟨_, _, _⟩ := c
  obtain ⟨_, _, _⟩ := d
  cases same
  cases before
  cases rest
  rfl

theorem Placed.step {x : Char} {rest : List Char} (placed : Placed text c) (more : c.rest = x :: rest) :
    Placed text (c.step x rest) := by
  have within := placed.toWithin.step more
  have inside : c.index < text.length := within.inside
  have ahead : text.drop c.index = x :: rest := placed.rest.symm.trans more
  rw [List.drop_eq_getElem_cons inside, List.cons.injEq] at ahead
  refine ⟨within.lower (Nat.zero_le _), ?_⟩
  rw [Cursor.step, List.take_succ_eq_append_getElem inside, List.getLast?_concat, ahead.1]

theorem Placed.length_eq (placed : Placed text c) : c.rest.length = text.length - c.index := by
  rw [placed.rest, List.length_drop]

end Cursor

open Cursor

structure Program.Bounded (program : Program) : Prop where
  starts : program.start < program.steps.size
  goesOn : ∀ instruction ∈ program.steps.toList, ∀ target ∈ instruction.targets, target < program.steps.size

theorem placed_follow (placed : Placed text c) (ahead : next ∈ instruction.follow c) :
    Placed text next.cursor ∧ c.index ≤ next.cursor.index := by
  refine ⟨?_, (within_follow placed.toWithin.self ahead).behind⟩
  obtain ⟨_, here | ⟨x, rest, more, moved⟩⟩ := of_mem_follow ahead
  · exact here ▸ placed
  · exact moved ▸ placed.step more

theorem length_follow : (instruction.follow c).length ≤ 2 := by
  cases instruction with
  | accept => exact Nat.zero_le _
  | one accepted target =>
    simp only [Instruction.follow]
    split
    · exact Nat.zero_le _
    · split <;> simp
  | look l target =>
    simp only [Instruction.follow]
    split <;> simp
  | choose preferred other => exact Nat.le_refl _

structure Program.Stands (program : Program) (text : List Char) (low : Nat) (thread : Thread) : Prop where
  placed : Placed text thread.cursor
  behind : low ≤ thread.cursor.index
  known : thread.step < program.steps.size

theorem Program.Stands.follow (stands : program.Stands text low thread) (bounded : program.Bounded)
    (here : program.steps[thread.step]? = some instruction) (ahead : next ∈ instruction.follow thread.cursor) :
    program.Stands text low next := by
  obtain ⟨placed, later⟩ := placed_follow stands.placed ahead
  have member : instruction ∈ program.steps.toList := Array.mem_toList_iff.mpr (Array.mem_of_getElem? here)
  exact ⟨placed, Nat.le_trans stands.behind later, bounded.goesOn instruction member _ (of_mem_follow ahead).1⟩

theorem Program.Stands.lower (stands : program.Stands text low thread) : program.Stands text 0 thread :=
  ⟨stands.placed, Nat.zero_le _, stands.known⟩

theorem visit_inj (stands : program.Stands text low thread) (standsToo : program.Stands text 0 next)
    (same : program.visit thread = program.visit next) : thread = next := by
  have known := stands.known
  have knownToo := standsToo.known
  have positive : 0 < program.steps.size := Nat.zero_lt_of_lt known
  unfold Program.visit at same
  have steps : thread.step = next.step := by
    have remainder := congrArg (· % program.steps.size) same
    simpa [Nat.mul_add_mod', Nat.mod_eq_of_lt known, Nat.mod_eq_of_lt knownToo] using remainder
  have places : thread.cursor.index = next.cursor.index := by
    rw [steps] at same
    exact Nat.eq_of_mul_eq_mul_right positive (Nat.add_right_cancel same)
  obtain ⟨step, cursor⟩ := thread
  obtain ⟨_, _⟩ := next
  cases steps
  cases stands.placed.unique standsToo.placed places
  rfl

-- What has been visited does not accept, and what it leads to is visited as well, or waits.
def Program.Settled (program : Program) (text : List Char) (visited : NumberSet) (waiting : List Thread) : Prop :=
  ∀ thread instruction, program.Stands text 0 thread → visited.contains (program.visit thread) = true →
    program.steps[thread.step]? = some instruction → instruction ≠ .accept ∧
      ∀ next ∈ instruction.follow thread.cursor, visited.contains (program.visit next) = true ∨ next ∈ waiting

theorem settled_empty : program.Settled text .empty [] := by
  intro thread instruction _ seen
  rw [NumberSet.contains_empty] at seen
  cases seen

-- Nothing that has been visited leads to a match once nothing waits.
theorem not_leads (bounded : program.Bounded) (settled : program.Settled text visited [])
    (stands : program.Stands text 0 thread) (seen : visited.contains (program.visit thread) = true) :
    ¬program.Leads thread e := by
  intro leads
  induction leads with
  | accept accepts => exact (settled _ _ stands seen accepts).1 rfl
  | step here ahead _ ih =>
    rcases (settled _ _ stands seen here).2 _ ahead with visitedToo | waits
    · exact ih (stands.follow bounded here ahead) visitedToo
    · cases waits

-- How many steps at places from `low` on have not been visited.
def Program.fresh (program : Program) (text : List Char) (low : Nat) (visited : NumberSet) : Nat :=
  ((Finset.Ico (low * program.steps.size) ((text.length + 1) * program.steps.size)).filter
    fun n => visited.contains n = false).card

theorem fresh_insert (stands : program.Stands text low thread)
    (unseen : visited.contains (program.visit thread) = false) :
    program.fresh text low (visited.insert (program.visit thread)) < program.fresh text low visited := by
  have known := stands.known
  have lower : low * program.steps.size ≤ thread.cursor.index * program.steps.size :=
    Nat.mul_le_mul_right _ stands.behind
  have upper : (thread.cursor.index + 1) * program.steps.size ≤ (text.length + 1) * program.steps.size :=
    Nat.mul_le_mul_right _ (Nat.succ_le_succ stands.placed.inside)
  rw [Nat.succ_mul] at upper
  refine Finset.card_lt_card (Finset.ssubset_iff_subset_ne.mpr ⟨?_, fun same => ?_⟩)
  · intro n member
    simp only [Finset.mem_filter, NumberSet.contains_insert, Bool.or_eq_false_iff] at member ⊢
    exact ⟨member.1, member.2.2⟩
  · have among : program.visit thread ∈ (Finset.Ico (low * program.steps.size)
        ((text.length + 1) * program.steps.size)).filter fun n => visited.contains n = false := by
      simp only [Finset.mem_filter, Finset.mem_Ico, Program.visit] at unseen ⊢
      exact ⟨⟨by omega, by omega⟩, unseen⟩
    rw [← same, Finset.mem_filter, NumberSet.contains_insert] at among
    simp at among

theorem fresh_le : program.fresh text low visited ≤ (text.length + 1 - low) * program.steps.size := by
  refine Nat.le_trans (Finset.card_filter_le _ _) ?_
  rw [Nat.card_Ico, Nat.sub_mul]

theorem settled_of_seen (settled : program.Settled text visited (thread :: waiting))
    (seen : visited.contains (program.visit thread) = true) : program.Settled text visited waiting := by
  intro other instruction stands there here
  obtain ⟨goesOn, ahead⟩ := settled other instruction stands there here
  refine ⟨goesOn, fun next member => ?_⟩
  rcases ahead next member with visitedToo | waits
  · exact .inl visitedToo
  · rcases List.mem_cons.mp waits with rfl | later
    · exact .inl seen
    · exact .inr later

theorem settled_insert (settled : program.Settled text visited (thread :: waiting))
    (stands : program.Stands text low thread) (here : program.steps[thread.step]? = some instruction)
    (goesOn : instruction ≠ .accept) : program.Settled text (visited.insert (program.visit thread))
      (instruction.follow thread.cursor ++ waiting) := by
  intro other found standsToo there hereToo
  rw [NumberSet.contains_insert, Bool.or_eq_true, decide_eq_true_eq] at there
  rcases there with same | before
  · obtain rfl := visit_inj stands standsToo same.symm
    cases here.symm.trans hereToo
    exact ⟨goesOn, fun next member => .inr (List.mem_append_left _ member)⟩
  · obtain ⟨goesOnToo, ahead⟩ := settled other found standsToo before hereToo
    refine ⟨goesOnToo, fun next member => ?_⟩
    rw [NumberSet.contains_insert, Bool.or_eq_true, decide_eq_true_eq]
    rcases ahead next member with visitedToo | waits
    · exact .inl (.inr visitedToo)
    · rcases List.mem_cons.mp waits with rfl | later
      · exact .inl (.inl rfl)
      · exact .inr (List.mem_append_right _ later)

-- What is left visited: all that was visited before, and all that waited.
def Program.Covered (program : Program) (visited left : NumberSet) (waiting : List Thread) : Prop :=
  ∀ n, visited.contains n = true ∨ (∃ thread ∈ waiting, n = program.visit thread) → left.contains n = true

theorem covered_nil : program.Covered visited visited [] := fun _ seen => by simpa using seen

theorem covered_of_seen (covered : program.Covered visited left waiting)
    (seen : visited.contains (program.visit thread) = true) : program.Covered visited left (thread :: waiting) := by
  rintro n (before | ⟨other, member, rfl⟩)
  · exact covered n (.inl before)
  · rcases List.mem_cons.mp member with rfl | later
    · exact covered _ (.inl seen)
    · exact covered _ (.inr ⟨other, later, rfl⟩)

theorem covered_of_insert
    (covered : program.Covered (visited.insert (program.visit thread)) left (threads ++ waiting)) :
    program.Covered visited left (thread :: waiting) := by
  intro n among
  refine covered n ?_
  rw [NumberSet.contains_insert, Bool.or_eq_true, decide_eq_true_eq]
  rcases among with before | ⟨other, member, rfl⟩
  · exact .inl (.inr before)
  · rcases List.mem_cons.mp member with rfl | later
    · exact .inl (.inl rfl)
    · exact .inr ⟨other, List.mem_append_right _ later, rfl⟩

theorem stand_follow (bounded : program.Bounded) (stand : ∀ other ∈ thread :: waiting, program.Stands text low other)
    (here : program.steps[thread.step]? = some instruction) :
    ∀ next ∈ instruction.follow thread.cursor ++ waiting, program.Stands text low next := by
  obtain ⟨stands, others⟩ := List.forall_mem_cons.mp stand
  exact List.forall_mem_append.mpr ⟨fun next ahead => stands.follow bounded here ahead, others⟩

-- A search that finds nothing has looked into everything that waited.
theorem explore_none (bounded : program.Bounded) (stand : ∀ thread ∈ threads, program.Stands text low thread)
    (settled : program.Settled text visited threads)
    (enough : 2 * program.fresh text low visited + threads.length ≤ fuel)
    (missed : program.explore fuel threads visited = (none, left)) :
    program.Settled text left [] ∧ program.Covered visited left threads := by
  induction fuel generalizing threads visited with
  | zero =>
    obtain rfl : threads = [] := List.length_eq_zero_iff.mp (by omega)
    cases missed
    exact ⟨settled, covered_nil⟩
  | succ fuel ih =>
    cases threads with
    | nil =>
      cases missed
      exact ⟨settled, covered_nil⟩
    | cons thread waiting =>
      obtain ⟨stands, others⟩ := List.forall_mem_cons.mp stand
      rw [List.length_cons] at enough
      unfold Program.explore at missed
      split at missed
      · rename_i seen
        obtain ⟨done, covered⟩ := ih others (settled_of_seen settled seen) (by omega) missed
        exact ⟨done, covered_of_seen covered seen⟩
      · rename_i unseen
        have fewer := fresh_insert stands (Bool.not_eq_true _ ▸ unseen)
        obtain ⟨instruction, here⟩ : ∃ instruction, program.steps[thread.step]? = some instruction :=
          ⟨_, Array.getElem?_eq_getElem stands.known⟩
        have goesOn : instruction ≠ .accept := by
          rintro rfl
          simp [here] at missed
        have ahead : program.explore fuel (instruction.follow thread.cursor ++ waiting)
            (visited.insert (program.visit thread)) = (none, left) := by
          cases instruction with
          | accept => exact absurd rfl goesOn
          | one | look | choose => simpa only [here] using missed
        have few : (instruction.follow thread.cursor ++ waiting).length ≤ 2 + waiting.length := by
          rw [List.length_append]
          exact Nat.add_le_add_right length_follow _
        obtain ⟨done, covered⟩ := ih (stand_follow bounded stand here) (settled_insert settled stands here goesOn)
          (by omega) ahead
        exact ⟨done, covered_of_insert covered⟩

theorem leads_of_matchAt (reached : program.matchAt c visited = (some e, left)) :
    program.Leads ⟨program.start, c⟩ e := by
  obtain ⟨thread, member, leads⟩ := leads_of_explore reached
  exact List.mem_singleton.mp member ▸ leads

-- The effort that is allowed for is enough: where no match is found, there is none.
theorem matchAt_none (bounded : program.Bounded) (placed : Placed text c) (settled : program.Settled text visited [])
    (missed : program.matchAt c visited = (none, left)) :
    program.Settled text left [] ∧ ∀ e, ¬program.Leads ⟨program.start, c⟩ e := by
  have stands : program.Stands text c.index ⟨program.start, c⟩ := ⟨placed, Nat.le_refl _, bounded.starts⟩
  have waits : program.Settled text visited [⟨program.start, c⟩] := by
    intro thread instruction standsToo seen here
    obtain ⟨goesOn, ahead⟩ := settled thread instruction standsToo seen here
    exact ⟨goesOn, fun next member => .inl ((ahead next member).resolve_right (List.not_mem_nil))⟩
  have enough : 2 * program.fresh text c.index visited + 1 ≤ program.effort c := by
    have bound : program.fresh text c.index visited ≤ (text.length + 1 - c.index) * program.steps.size := fresh_le
    have length := placed.length_eq
    have inside := placed.inside
    have same : c.rest.length + 1 = text.length + 1 - c.index := by omega
    rw [Program.effort, same, Nat.mul_assoc, Nat.mul_comm program.steps.size]
    omega
  obtain ⟨done, covered⟩ := explore_none bounded (fun thread member => List.mem_singleton.mp member ▸ stands) waits
    enough missed
  exact ⟨done, fun e => not_leads bounded done stands.lower
    (covered _ (.inr ⟨_, List.mem_singleton_self _, rfl⟩))⟩

-- A program that matches from any place up to one other place at most, the one that is told.
structure Program.Decided (program : Program) (stop : Cursor → Option Cursor) : Prop where
  bounded : program.Bounded
  leads_iff : ∀ c e, program.Leads ⟨program.start, c⟩ e ↔ stop c = some e

def firstFrom (stop : Cursor → Option Cursor) (index : Nat) (before : Option Char) :
    List Char → Option (Cursor × Cursor)
  | [] => (stop ⟨index, before, []⟩).map fun e => (⟨index, before, []⟩, e)
  | x :: rest =>
    match stop ⟨index, before, x :: rest⟩ with
    | some e => some (⟨index, before, x :: rest⟩, e)
    | none => firstFrom stop (index + 1) (some x) rest

variable {stop : Cursor → Option Cursor} {index : Nat} {before : Option Char} {rest : List Char}

theorem matchAt_of_decided (decided : program.Decided stop) (placed : Placed text c)
    (settled : program.Settled text visited []) : (program.matchAt c visited).1 = stop c ∧
      (stop c = none → program.Settled text (program.matchAt c visited).2 []) := by
  cases reached : program.matchAt c visited with
  | mk end? left =>
    cases end? with
    | some e =>
      have stops : stop c = some e := (decided.leads_iff c e).mp (leads_of_matchAt reached)
      exact ⟨stops.symm, fun none => absurd (stops.symm.trans none) (Option.some_ne_none e)⟩
    | none =>
      obtain ⟨done, nowhere⟩ := matchAt_none decided.bounded placed settled reached
      refine ⟨(Option.eq_none_iff_forall_ne_some.mpr fun e stops => ?_).symm, fun _ => done⟩
      exact nowhere e ((decided.leads_iff c e).mpr stops)

theorem matchFrom_of_decided (decided : program.Decided stop) (placed : Placed text ⟨index, before, rest⟩)
    (settled : program.Settled text visited []) :
    program.matchFrom index before visited rest = firstFrom stop index before rest := by
  induction rest generalizing index before visited with
  | nil => rw [Program.matchFrom, firstFrom, (matchAt_of_decided decided placed settled).1]
  | cons x rest ih =>
    obtain ⟨reached, done⟩ := matchAt_of_decided decided placed settled
    rw [Program.matchFrom, firstFrom]
    cases found : program.matchAt ⟨index, before, x :: rest⟩ visited with
    | mk end? left =>
      rw [found] at reached done
      obtain rfl : end? = _ := reached
      cases stops : stop ⟨index, before, x :: rest⟩ with
      | some e => rfl
      | none => exact ih (placed.step rfl) (done stops)

theorem nextMatch_of_decided (decided : program.Decided stop) (placed : Placed text c) :
    program.nextMatch c = firstFrom stop c.index c.before c.rest :=
  matchFrom_of_decided decided placed settled_empty

end TextFeatures.Pattern
