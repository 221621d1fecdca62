import Mathlib.Data.List.Forall2
import Mathlib.Tactic.Tauto
import TextFeatures.Proofs.Checked.Matrices
import TextFeatures.Proofs.Matrix.Building

namespace TextFeatures.SparseMatrix

section Numbers
variable {α : Type} [BEq α]

theorem beq_iff_forall₂ {xs ys : List α} : (xs == ys) = true ↔ List.Forall₂ (fun x y => (x == y) = true) xs ys := by
  induction xs generalizing ys with
  | nil => cases ys <;> simp
  | cons x xs ih =>
    cases ys with
    | nil => simp
    | cons y ys => rw [List.cons_beq_cons, Bool.and_eq_true, List.forall₂_cons, ih]

def Alike (one other : Nat × α) : Prop := one.1 = other.1 ∧ (one.2 == other.2) = true

theorem forall₂_alike_iff {entries others : List (Nat × α)} : List.Forall₂ Alike entries others ↔
    entries.map Prod.fst = others.map Prod.fst ∧ (entries.map Prod.snd == others.map Prod.snd) = true := by
  rw [beq_iff_forall₂, List.forall₂_map_left_iff, List.forall₂_map_right_iff]
  induction entries generalizing others with
  | nil => cases others <;> simp
  | cons entry rest ih =>
    cases others with
    | nil => simp
    | cons other others =>
      simp only [List.forall₂_cons, List.map_cons, List.cons.injEq, ih, Alike]
      tauto

theorem forall₂_of_flatten {β γ : Type} {R : β → γ → Prop} {pieces : List (List β)} {others : List (List γ)}
    (lengths : pieces.map List.length = others.map List.length) (whole : List.Forall₂ R pieces.flatten others.flatten) :
    List.Forall₂ (List.Forall₂ R) pieces others := by
  induction pieces generalizing others with
  | nil =>
    cases others with
    | nil => exact .nil
    | cons other others => cases lengths
  | cons piece rest ih =>
    cases others with
    | nil => cases lengths
    | cons other others =>
      obtain ⟨length, more⟩ := List.cons.inj lengths
      have first := List.forall₂_take piece.length whole
      have later := List.forall₂_drop piece.length whole
      rw [List.flatten_cons, List.flatten_cons, List.take_left, length, List.take_left] at first
      rw [List.flatten_cons, List.flatten_cons, List.drop_left, length, List.drop_left] at later
      exact .cons first (ih more later)

theorem startsFrom_injective {start : Nat} {lengths others : List Nat}
    (same : startsFrom start lengths = startsFrom start others) : lengths = others := by
  induction lengths generalizing start others with
  | nil =>
    cases others with
    | nil => rfl
    | cons other others =>
      rw [startsFrom, startsFrom, startsFrom_eq_cons] at same
      cases same
  | cons length rest ih =>
    cases others with
    | nil =>
      rw [startsFrom, startsFrom, startsFrom_eq_cons] at same
      cases same
    | cons other others =>
      have later : startsFrom (start + length) rest = startsFrom (start + other) others := (List.cons.inj same).2
      have heads := congrArg List.head? later
      rw [startsFrom_eq_cons, startsFrom_eq_cons (start + other)] at heads
      obtain rfl : length = other := Nat.add_left_cancel (Option.some.inj heads)
      rw [ih later]

end Numbers

section Orderly
variable {α : Type} [BEq α] [OfNat α 0] {width widthToo c r : Nat} {entries others : List (Nat × α)}
  {stored storedToo : List (List (Nat × α))} {matrix : SparseMatrix α} {row : Dictionary Nat α}
  {rows rowsToo : List (Dictionary Nat α)}

-- A row as it is stored: its columns in order and within the width, and none of its values zero.
structure Sound (width : Nat) (entries : List (Nat × α)) : Prop where
  increasing : entries.Pairwise fun a b => a.1 < b.1
  inside : ∀ entry ∈ entries, entry.1 < width
  nonzero : ∀ entry ∈ entries, (entry.2 == 0) = false

-- The rows stand one behind another, from the first entry to the last, and each is sound.
structure Orderly (matrix : SparseMatrix α) : Prop where
  first : matrix.rowStarts.head? = some 0
  ascending : matrix.rowStarts.Pairwise (· ≤ ·)
  last : matrix.rowStarts.getLast? = some matrix.storedCount
  paired : matrix.columns.length = matrix.storedCount
  inside : ∀ column ∈ matrix.columns, column < matrix.columnCount
  nonzero : ∀ value ∈ matrix.values, (value == 0) = false
  rows : ∀ r, ∃ entries, matrix.row r = .ok entries ∧ Sound matrix.columnCount entries

theorem sound_nil : Sound width ([] : List (Nat × α)) := by
  constructor
  · exact .nil
  · intro entry member
    cases member
  · intro entry member
    cases member

theorem Sound.tail {entry : Nat × α} (sound : Sound width (entry :: entries)) : Sound width entries :=
  ⟨sound.increasing.tail, (List.forall_mem_cons.mp sound.inside).2, (List.forall_mem_cons.mp sound.nonzero).2⟩

theorem sound_storedEntries (inside : ∀ entry ∈ row.entries, entry.1 < width) : Sound width (storedEntries row) := by
  constructor
  · exact row.ordered.filter _
  · intro entry member
    exact inside entry (List.mem_filter.mp member).1
  · intro entry member
    have kept := (List.mem_filter.mp member).2
    simpa [bne] using kept

theorem sound_getD (sound : ∀ entries ∈ stored, Sound width entries) : Sound width (stored[r]?.getD []) := by
  cases there : stored[r]? with
  | none => exact sound_nil
  | some entries => exact sound entries (List.mem_of_getElem? there)

omit [BEq α] [OfNat α 0] in
theorem le_of_mem_startsFrom {start place : Nat} {lengths : List Nat} (member : place ∈ startsFrom start lengths) :
    start ≤ place := by
  induction lengths generalizing start with
  | nil =>
    obtain rfl := List.mem_singleton.mp member
    exact Nat.le_refl _
  | cons length rest ih =>
    rcases List.mem_cons.mp member with rfl | later
    · exact Nat.le_refl _
    · exact Nat.le_trans (Nat.le_add_right _ _) (ih later)

omit [BEq α] [OfNat α 0] in
theorem startsFrom_ascending {start : Nat} {lengths : List Nat} : (startsFrom start lengths).Pairwise (· ≤ ·) := by
  induction lengths generalizing start with
  | nil => exact List.pairwise_singleton _ _
  | cons length rest ih =>
    refine List.pairwise_cons.mpr ⟨?_, ih⟩
    intro place member
    exact Nat.le_trans (Nat.le_add_right _ _) (le_of_mem_startsFrom member)

omit [BEq α] [OfNat α 0] in
theorem getLast?_startsFrom {start : Nat} {lengths : List Nat} :
    (startsFrom start lengths).getLast? = some (start + lengths.sum) := by
  induction lengths generalizing start with
  | nil => rfl
  | cons length rest ih =>
    have later := @ih (start + length)
    rw [startsFrom_eq_cons] at later
    rw [startsFrom, startsFrom_eq_cons, List.getLast?_cons_cons, later, List.sum_cons, Nat.add_assoc]

theorem orderly_ofStored (sound : ∀ entries ∈ stored, Sound width entries) : (ofStored width stored).Orderly := by
  have total : (stored.map List.length).sum = stored.flatten.length := List.length_flatten.symm
  have entry {one : Nat × α} (member : one ∈ stored.flatten) : one.1 < width ∧ (one.2 == 0) = false := by
    obtain ⟨entries, among, there⟩ := List.mem_flatten.mp member
    exact ⟨(sound entries among).inside one there, (sound entries among).nonzero one there⟩
  constructor
  · rw [ofStored, startsFrom_eq_cons]
    rfl
  · exact startsFrom_ascending
  · rw [storedCount, length_values_ofStored, ofStored, getLast?_startsFrom, total, Nat.zero_add]
  · rw [storedCount, length_values_ofStored, length_columns_ofStored]
  · intro column member
    obtain ⟨one, among, rfl⟩ := List.mem_map.mp member
    exact (entry among).1
  · intro value member
    obtain ⟨one, among, rfl⟩ := List.mem_map.mp member
    exact (entry among).2
  · intro r
    exact ⟨_, row_ofStored, sound_getD sound⟩

-- Sound rows are alike if the same values are found in them, for a column that one of them lacks has a zero there.

omit [BEq α] in
theorem valueAt_cons {entry : Nat × α} :
    valueAt (entry :: entries) c = if c = entry.1 then entry.2 else valueAt entries c := by
  unfold valueAt
  rw [Dictionary.lookup_cons_eq]
  split <;> rfl

omit [BEq α] in
theorem valueAt_absent (above : ∀ entry ∈ entries, c < entry.1) : valueAt entries c = 0 := by
  rw [valueAt, Dictionary.lookup_eq_none_of_lt above]
  rfl

theorem valueAt_outside (sound : Sound width entries) (outside : width ≤ c) : valueAt entries c = 0 := by
  have absent : entries.lookup c = none := by
    refine List.lookup_eq_none_iff.mpr fun entry member => ?_
    have inside := sound.inside entry member
    simpa using (by omega : c ≠ entry.1)
  rw [valueAt, absent]
  rfl

theorem valueAt_alike (zero : ((0 : α) == 0) = true) (alike : List.Forall₂ Alike entries others) :
    (valueAt entries c == valueAt others c) = true := by
  induction alike with
  | nil => exact zero
  | cons here _ ih =>
    rw [valueAt_cons, valueAt_cons, ← here.1]
    split
    · exact here.2
    · exact ih

-- What a row stores is not zero, and so nothing is equal to it that has no entry in its column.
theorem Sound.unmatched {entry : Nat × α} (sound : Sound width (entry :: entries))
    (above : ∀ other ∈ others, entry.1 < other.1) :
    ¬(valueAt (entry :: entries) entry.1 == valueAt others entry.1) = true := by
  rw [valueAt_cons, if_pos rfl, valueAt_absent above, sound.nonzero entry List.mem_cons_self]
  exact Bool.false_ne_true

theorem alike_of_valueAt [PartialEquivBEq α] (zero : ((0 : α) == 0) = true) (sound : Sound width entries)
    (soundToo : Sound widthToo others) (same : ∀ c, (valueAt entries c == valueAt others c) = true) :
    List.Forall₂ Alike entries others := by
  induction entries generalizing others with
  | nil =>
    cases others with
    | nil => exact .nil
    | cons other others => exact absurd (BEq.symm (same other.1)) (soundToo.unmatched (by simp))
  | cons entry rest ih =>
    obtain ⟨above, _⟩ := List.pairwise_cons.mp sound.increasing
    cases others with
    | nil => exact absurd (same entry.1) (sound.unmatched (by simp))
    | cons other others =>
      obtain ⟨aboveToo, _⟩ := List.pairwise_cons.mp soundToo.increasing
      rcases Nat.lt_trichotomy entry.1 other.1 with before | equal | after
      · have absent : ∀ another ∈ other :: others, entry.1 < another.1 :=
          List.forall_mem_cons.mpr ⟨before, fun another member => Nat.lt_trans before (aboveToo another member)⟩
        exact absurd (same entry.1) (sound.unmatched absent)
      · have here := same entry.1
        rw [valueAt_cons, valueAt_cons, if_pos rfl, if_pos equal] at here
        refine .cons ⟨equal, here⟩ (ih sound.tail soundToo.tail ?_)
        intro c
        by_cases first : c = entry.1
        · subst first
          rw [valueAt_absent above, valueAt_absent (equal ▸ aboveToo)]
          exact zero
        · have elsewhere := same c
          rw [valueAt_cons, valueAt_cons, if_neg first, if_neg (equal ▸ first)] at elsewhere
          exact elsewhere
      · have absent : ∀ another ∈ entry :: rest, other.1 < another.1 :=
          List.forall_mem_cons.mpr ⟨after, fun another member => Nat.lt_trans after (above another member)⟩
        exact absurd (BEq.symm (same other.1)) (soundToo.unmatched absent)

-- Equality part by part, where values are compared as numbers.
def agrees (one other : SparseMatrix α) : Bool :=
  one.columnCount == other.columnCount && one.rowStarts == other.rowStarts && one.columns == other.columns &&
    one.values == other.values

omit [OfNat α 0] in
theorem agrees_ofStored_iff : (ofStored width stored).agrees (ofStored widthToo storedToo) = true ↔
    width = widthToo ∧ List.Forall₂ (List.Forall₂ Alike) stored storedToo := by
  simp only [agrees, Bool.and_eq_true, beq_iff_eq, and_assoc]
  constructor
  · rintro ⟨sameWidth, starts, columns, values⟩
    refine ⟨sameWidth, forall₂_of_flatten (startsFrom_injective starts) ?_⟩
    exact forall₂_alike_iff.mpr ⟨columns, values⟩
  · rintro ⟨sameWidth, alike⟩
    have lengths : stored.map List.length = storedToo.map List.length := by
      rw [← List.forall₂_eq_eq_eq, List.forall₂_map_left_iff, List.forall₂_map_right_iff]
      exact alike.imp fun _ _ => List.Forall₂.length_eq
    obtain ⟨columns, values⟩ := forall₂_alike_iff.mp (List.rel_flatten alike)
    refine ⟨sameWidth, ?_, columns, values⟩
    rw [ofStored, ofStored, lengths]

end Orderly

end TextFeatures.SparseMatrix
