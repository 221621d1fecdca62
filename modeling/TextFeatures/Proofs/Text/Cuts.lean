import Mathlib.Data.List.SplitBy
import Mathlib.Data.List.TakeWhile

namespace TextFeatures.Text

variable {p : Char → Bool} {kind : Bool} {c : Char} {text piece rest : List Char} {f : List Char → List Char}

def cut (p : Char → Bool) (text : List Char) : List (List Char) := text.splitBy fun c d => p c == p d

-- Characters of one kind, and behind them nothing or a character of the other kind.
structure Stretch (p : Char → Bool) (kind : Bool) (piece rest : List Char) : Prop where
  nonempty : piece ≠ []
  uniform : ∀ c ∈ piece, p c = kind
  changes : ∀ c ∈ rest.head?, p c = !kind

theorem cut_append (stretch : Stretch p kind piece rest) : cut p (piece ++ rest) = piece :: cut p rest := by
  have apart : ∀ c ∈ piece.getLast?, ∀ d ∈ rest.head?, (p c == p d) = false := by
    intro c last d first
    rw [stretch.uniform c (List.mem_of_mem_getLast? last), stretch.changes d first]
    cases kind <;> rfl
  have whole : cut p piece = [piece] := by
    apply List.splitBy_of_isChain stretch.nonempty
    apply List.Pairwise.isChain
    apply List.pairwise_of_forall_mem_list
    intro c among d amongToo
    simp [stretch.uniform c among, stretch.uniform d amongToo]
  unfold cut at whole ⊢
  rw [List.splitBy_append apart, whole]
  rfl

theorem head_dropWhile (first : c ∈ (text.dropWhile p).head?) : p c = false := by
  have out := List.head?_dropWhile_not p text
  rw [Option.mem_def.mp first] at out
  simpa using out

theorem stretch_takeWhile : Stretch p (p c) ((c :: rest).takeWhile fun d => p d == p c)
    ((c :: rest).dropWhile fun d => p d == p c) := by
  refine ⟨by simp, ?_, ?_⟩
  · intro d among
    simpa using List.mem_takeWhile_imp among
  · intro d first
    have differs := head_dropWhile first
    cases kind : p d <;> simp_all

-- A text is put together from stretches of alternating kinds.
theorem cut_induction (p : Char → Bool) {motive : List Char → Prop} (nil : motive [])
    (append : ∀ kind piece rest, Stretch p kind piece rest → motive rest → motive (piece ++ rest))
    (text : List Char) : motive text := by
  cases text with
  | nil => exact nil
  | cons c others =>
    have parts := List.takeWhile_append_dropWhile (p := fun d => p d == p c) (l := c :: others)
    have shorter : ((c :: others).dropWhile fun d => p d == p c).length < (c :: others).length := by
      have left := (List.dropWhile_sublist (l := others) fun d => p d == p c).length_le
      simp only [List.dropWhile_cons, beq_self_eq_true, if_true, List.length_cons]
      omega
    rw [← parts]
    exact append _ _ _ stretch_takeWhile (cut_induction p nil append _)
termination_by text.length
decreasing_by exact shorter

-- What is made of the pieces starts as the text does, provided that each piece stays of its kind.
theorem head_flatMap_cut
    (kept : ∀ kind piece, piece ≠ [] → (∀ c ∈ piece, p c = kind) → f piece ≠ [] ∧ ∀ c ∈ f piece, p c = kind)
    (starts : ∀ c ∈ text.head?, p c = kind) : ∀ c ∈ ((cut p text).flatMap f).head?, p c = kind := by
  induction text using cut_induction p with
  | nil => simp [cut]
  | append other piece rest stretch ih =>
    obtain ⟨present, uniform⟩ := kept other piece stretch.nonempty stretch.uniform
    obtain rfl : other = kind := by
      cases piece with
      | nil => exact absurd rfl stretch.nonempty
      | cons d more => exact (stretch.uniform d List.mem_cons_self).symm.trans (starts d rfl)
    intro c first
    rw [cut_append stretch, List.flatMap_cons, List.head?_append_of_ne_nil _ present] at first
    exact uniform c (List.mem_of_mem_head? first)

-- Pieces that stay of their kind are the pieces of the text that is made of them.
theorem cut_flatMap
    (kept : ∀ kind piece, piece ≠ [] → (∀ c ∈ piece, p c = kind) → f piece ≠ [] ∧ ∀ c ∈ f piece, p c = kind) :
    cut p ((cut p text).flatMap f) = (cut p text).map f := by
  induction text using cut_induction p with
  | nil => rfl
  | append kind piece rest stretch ih =>
    obtain ⟨present, uniform⟩ := kept kind piece stretch.nonempty stretch.uniform
    have stretchToo : Stretch p kind (f piece) ((cut p rest).flatMap f) :=
      ⟨present, uniform, head_flatMap_cut kept stretch.changes⟩
    rw [cut_append stretch, List.flatMap_cons, cut_append stretchToo, ih, List.map_cons]

end TextFeatures.Text
