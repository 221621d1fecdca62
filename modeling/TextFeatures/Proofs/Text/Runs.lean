import TextFeatures.Proofs.Text.Cuts
import TextFeatures.Proofs.Tokens.Words

namespace TextFeatures.Text

variable {p q : Char → Bool} {offset : Nat} {inside : Bool} {c : Char} {text word rest : List Char}
  {run : Nat × List Char}

-- The maximal runs of the characters that satisfy `p`, each with its offset. A run goes on at the start of the text
-- where it has been entered before.
def runsAfter (p : Char → Bool) (offset : Nat) (inside : Bool) : List Char → List (Nat × List Char)
  | [] => []
  | c :: rest =>
    if p c && !inside then (offset, (c :: rest).takeWhile p) :: runsAfter p (offset + 1) true rest
    else runsAfter p (offset + 1) (p c) rest

def runs (p : Char → Bool) (text : List Char) : List (List Char) := (runsAfter p 0 false text).map Prod.snd

-- A text is a stretch of characters that satisfy `p`, or such a stretch with a character behind it that does not and
-- a text behind that one.
theorem stretch_induction (p : Char → Bool) {motive : List Char → Prop}
    (whole : ∀ word, (∀ c ∈ word, p c = true) → motive word)
    (cut : ∀ word c rest, (∀ c ∈ word, p c = true) → p c = false → motive rest → motive (word ++ c :: rest))
    (text : List Char) : motive text := by
  have stretch : ∀ c ∈ text.takeWhile p, p c = true := fun _ => List.mem_takeWhile_imp
  have parts : text.takeWhile p ++ text.dropWhile p = text := List.takeWhile_append_dropWhile
  cases behind : text.dropWhile p with
  | nil =>
    rw [behind, List.append_nil] at parts
    exact parts ▸ whole _ stretch
  | cons c rest =>
    have out : p c = false := by
      apply head_dropWhile
      rw [behind]
      rfl
    rw [behind] at parts
    have shorter : rest.length < text.length := by
      have length := congrArg List.length parts
      rw [List.length_append, List.length_cons] at length
      omega
    exact parts ▸ cut _ c rest stretch out (stretch_induction p whole cut rest)
termination_by text.length

def stretchRun (offset : Nat) (word : List Char) : List (Nat × List Char) :=
  if word.isEmpty then [] else [(offset, word)]

theorem runsAfter_inside (all : ∀ c ∈ word, p c = true) :
    runsAfter p offset true (word ++ rest) = runsAfter p (offset + word.length) true rest := by
  induction word generalizing offset with
  | nil => rfl
  | cons c others ih =>
    obtain ⟨first, others⟩ := List.forall_mem_cons.mp all
    rw [List.cons_append, runsAfter, first, Bool.not_true, Bool.and_false, if_neg Bool.false_ne_true, ih others,
      List.length_cons, Nat.add_assoc, Nat.add_comm 1]

theorem takeWhile_stretch (all : ∀ c ∈ word, p c = true) (out : p c = false) :
    (word ++ c :: rest).takeWhile p = word := by
  rw [List.takeWhile_append_of_pos all, List.takeWhile_cons_of_neg (by simp [out]), List.append_nil]

theorem of_takeWhile_ne_nil (present : (c :: rest).takeWhile p ≠ []) : p c = true := by
  by_contra out
  exact present (List.takeWhile_cons_of_neg out)

theorem runsAfter_whole (all : ∀ c ∈ word, p c = true) : runsAfter p offset false word = stretchRun offset word := by
  cases word with
  | nil => rfl
  | cons c others =>
    have first : p c = true := all c List.mem_cons_self
    have behind : runsAfter p (offset + 1) true (others ++ []) = runsAfter p (offset + 1 + others.length) true [] :=
      runsAfter_inside (List.forall_mem_cons.mp all).2
    rw [List.append_nil] at behind
    rw [runsAfter, first, Bool.not_false, Bool.and_true, if_pos rfl, behind, List.takeWhile_eq_self_iff.mpr all]
    rfl

theorem runsAfter_out (out : p c = false) :
    runsAfter p offset inside (c :: rest) = runsAfter p (offset + 1) false rest := by
  rw [runsAfter, out, Bool.false_and, if_neg Bool.false_ne_true]

theorem runsAfter_cut (all : ∀ c ∈ word, p c = true) (out : p c = false) :
    runsAfter p offset false (word ++ c :: rest) =
      stretchRun offset word ++ runsAfter p (offset + word.length + 1) false rest := by
  cases word with
  | nil => exact runsAfter_out out
  | cons first others =>
    have starts : p first = true := all first List.mem_cons_self
    have behind : runsAfter p (offset + 1) true (others ++ c :: rest) =
        runsAfter p (offset + 1 + others.length) true (c :: rest) := runsAfter_inside (List.forall_mem_cons.mp all).2
    rw [List.cons_append, runsAfter, starts, Bool.not_false, Bool.and_true, if_pos rfl, behind, runsAfter_out out,
      ← List.cons_append, takeWhile_stretch all out, List.length_cons, Nat.add_right_comm offset]
    rfl

theorem le_of_mem_runsAfter (member : run ∈ runsAfter p offset inside text) : offset ≤ run.1 := by
  induction text generalizing offset inside with
  | nil => cases member
  | cons c rest ih =>
    rw [runsAfter] at member
    split at member
    · rcases List.mem_cons.mp member with rfl | later
      · exact Nat.le_refl _
      · exact Nat.le_of_succ_le (ih later)
    · exact Nat.le_of_succ_le (ih member)

theorem texts_stretchRun : (stretchRun offset word).map Prod.snd = if word.isEmpty then [] else [word] := by
  unfold stretchRun
  split <;> rfl

theorem texts_runsAfter : (runsAfter p offset false text).map Prod.snd = runs p text := by
  induction text using stretch_induction p generalizing offset with
  | whole word all => rw [runs, runsAfter_whole all, runsAfter_whole all, texts_stretchRun, texts_stretchRun]
  | cut word c rest all out ih =>
    rw [runs, runsAfter_cut all out, runsAfter_cut all out, List.map_append, List.map_append, ih, ih,
      texts_stretchRun, texts_stretchRun]

theorem runs_whole (all : ∀ c ∈ word, p c = true) : runs p word = if word.isEmpty then [] else [word] := by
  rw [runs, runsAfter_whole all, texts_stretchRun]

theorem runs_cut_stretch (all : ∀ c ∈ word, p c = true) (out : p c = false) :
    runs p (word ++ c :: rest) = runs p word ++ runs p rest := by
  rw [runs, runsAfter_cut all out, List.map_append, texts_runsAfter, runs_whole all, texts_stretchRun]

theorem runs_cut (out : p c = false) : runs p (text ++ c :: rest) = runs p text ++ runs p rest := by
  induction text using stretch_induction p with
  | whole word all => exact runs_cut_stretch all out
  | cut word d more all outToo ih =>
    rw [List.append_assoc, List.cons_append, runs_cut_stretch all outToo, ih, runs_cut_stretch all outToo,
      List.append_assoc]

-- What is done to a text stretch by stretch, and makes runs of runs, is done to its runs one by one.
theorem runs_of_cut (offset : Nat) {f : Nat → List Char → List Char} {g : List Char → List Char} (nothing : g [] = [])
    (kept : ∀ word, word ≠ [] → (∀ c ∈ word, p c = true) → g word ≠ [] ∧ ∀ c ∈ g word, p c = true)
    (whole : ∀ offset word, (∀ c ∈ word, p c = true) → f offset word = g word)
    (cut : ∀ offset word c rest, (∀ c ∈ word, p c = true) → p c = false →
      f offset (word ++ c :: rest) = g word ++ c :: f (offset + word.length + 1) rest) :
    runs p (f offset text) = (runs p text).map g := by
  have alone {word : List Char} (all : ∀ c ∈ word, p c = true) : runs p (g word) = (runs p word).map g := by
    cases word with
    | nil => rw [nothing]; rfl
    | cons c others =>
      obtain ⟨nonempty, allToo⟩ := kept _ (List.cons_ne_nil c others) all
      rw [runs_whole all, runs_whole allToo, if_neg fun empty => nonempty (List.isEmpty_iff.mp empty)]
      rfl
  induction text using stretch_induction p generalizing offset with
  | whole word all => rw [whole offset word all, alone all]
  | cut word c rest all out ih =>
    rw [cut offset word c rest all out, runs_cut out, runs_cut out, List.map_append, ih, alone all]

theorem of_mem_runs (member : word ∈ runs p text) : word ≠ [] ∧ ∀ c ∈ word, p c = true := by
  have alone {stretch : List Char} (all : ∀ c ∈ stretch, p c = true) (among : word ∈ runs p stretch) :
      word ≠ [] ∧ ∀ c ∈ word, p c = true := by
    rw [runs_whole all] at among
    split at among
    · cases among
    · rename_i nonempty
      obtain rfl := List.mem_singleton.mp among
      exact ⟨fun empty => nonempty (List.isEmpty_iff.mpr empty), all⟩
  induction text using stretch_induction p with
  | whole stretch all => exact alone all member
  | cut stretch c rest all out ih =>
    rw [runs_cut out, List.mem_append] at member
    exact member.elim (alone all) ih

theorem runs_run (member : word ∈ runs p text) : runs p word = [word] := by
  obtain ⟨nonempty, all⟩ := of_mem_runs member
  rw [runs_whole all, if_neg fun empty => nonempty (List.isEmpty_iff.mp empty)]

theorem flatMap_runs_whole {α : Type} {f : List Char → List α} (nothing : f [] = []) (all : ∀ c ∈ word, p c = true) :
    (runs p word).flatMap f = f word := by
  rw [runs_whole all]
  split
  · rename_i empty
    rw [List.isEmpty_iff.mp empty, nothing, List.flatMap_nil]
  · exact List.flatMap_singleton f word

theorem runs_narrower (within : ∀ c, p c = true → q c = true) : runs p text = (runs q text).flatMap (runs p) := by
  induction text using stretch_induction q with
  | whole word all => exact (flatMap_runs_whole rfl all).symm
  | cut word c rest all out ih =>
    have narrowerToo : p c = false := by
      rw [← Bool.not_eq_true]
      intro holds
      rw [within c holds] at out
      cases out
    rw [runs_cut narrowerToo, runs_cut out, List.flatMap_append, ← ih, flatMap_runs_whole rfl all]

end TextFeatures.Text

namespace TextFeatures.Words
open Unicode Text

variable {offset : Nat} {text : List Char}

def isUnbroken (c : Char) : Bool := !isBlank c

theorem runsFrom_eq : runsFrom offset text = runsAfter isUnbroken offset false text := by
  have alone {word rest : List Char} {offset : Nat} (all : ∀ c ∈ word, isUnbroken c = true) (closes : Closes rest) :
      runsFrom offset (word ++ rest) = stretchRun offset word ++ runsFrom (offset + word.length) rest := by
    cases word with
    | nil => rfl
    | cons c others =>
      exact runsFrom_append (List.cons_ne_nil c others) (fun c among => by simpa [isUnbroken] using all c among) closes
  induction text using stretch_induction isUnbroken generalizing offset with
  | whole word all =>
    have whole : runsFrom offset (word ++ []) = stretchRun offset word ++ runsFrom (offset + word.length) [] :=
      alone all .done
    rw [List.append_nil, runsFrom, List.append_nil] at whole
    rw [whole, runsAfter_whole all]
  | cut word c rest all out ih =>
    have blank : isBlank c = true := by simpa [isUnbroken] using out
    rw [alone all (.blank blank), runsAfter_cut all out, runsFrom_blank blank, ih]

end TextFeatures.Words
