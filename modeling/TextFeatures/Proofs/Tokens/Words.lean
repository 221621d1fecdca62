import TextFeatures.Tokens.Token
import TextFeatures.Tokens.Words

namespace TextFeatures

-- A text that blanks do not cut into pieces.
structure IsWord (text : String) : Prop where
  nonempty : text.toList ≠ []
  unbroken : ∀ c ∈ text.toList, Unicode.isBlank c = false

theorem isWord_iff {text : String} :
    IsWord text ↔ text.toList ≠ [] ∧ text.toList.all (fun c => !Unicode.isBlank c) = true := by
  rw [List.all_eq_true]
  simp only [Bool.not_eq_true']
  exact ⟨fun word => ⟨word.nonempty, word.unbroken⟩, fun ⟨nonempty, unbroken⟩ => ⟨nonempty, unbroken⟩⟩

instance {text : String} : Decidable (IsWord text) := decidable_of_iff' _ isWord_iff

theorem toList_joined_cons {text next : String} {more : List String} :
    (joined (text :: next :: more)).toList = text.toList ++ ' ' :: (joined (next :: more)).toList := by
  simp [joined, String.intercalate_cons_cons]

theorem space_mem_joined {texts : List String} (several : 2 ≤ texts.length) : ' ' ∈ (joined texts).toList := by
  match texts, several with
  | text :: next :: more, _ =>
    rw [toList_joined_cons]
    exact List.mem_append_right _ List.mem_cons_self

namespace Words
open Unicode

variable {offset : Nat} {c : Char} {cs word rest : List Char} {run : Nat × List Char} {texts : List String}

theorem runsFrom_blank (blank : isBlank c = true) : runsFrom offset (c :: rest) = runsFrom (offset + 1) rest := by
  simp [runsFrom, blank]

theorem le_of_mem_runsFrom (member : run ∈ runsFrom offset cs) : offset ≤ run.1 := by
  induction cs generalizing offset run with
  | nil => cases member
  | cons c rest ih =>
    unfold runsFrom at member
    dsimp only at member
    split at member
    · exact Nat.le_of_succ_le (ih member)
    · split at member
      · obtain rfl := List.mem_singleton.mp member
        exact Nat.le_refl _
      · rename_i start next more later
        have others (other : Nat × List Char) (among : other ∈ more) : offset ≤ other.1 :=
          Nat.le_of_succ_le (ih (later ▸ List.mem_cons_of_mem _ among))
        split at member
        · rcases List.mem_cons.mp member with rfl | among
          · exact Nat.le_refl _
          · exact others run among
        · rcases List.mem_cons.mp member with rfl | among
          · exact Nat.le_refl _
          · exact Nat.le_of_succ_le (ih (later ▸ among))

inductive Closes : List Char → Prop
  | done : Closes []
  | blank {c : Char} {rest : List Char} : isBlank c = true → Closes (c :: rest)

theorem runsFrom_single (unbroken : isBlank c = false) (closes : Closes rest) :
    runsFrom offset (c :: rest) = (offset, [c]) :: runsFrom (offset + 1) rest := by
  cases closes with
  | done => simp [runsFrom, unbroken]
  | @blank b rest blank =>
    rw [runsFrom, runsFrom_blank blank]
    simp only [unbroken, Bool.false_eq_true, if_false]
    cases later : runsFrom (offset + 1 + 1) rest with
    | nil => rfl
    | cons next more =>
      have behind : offset + 1 + 1 ≤ next.1 := le_of_mem_runsFrom (later ▸ List.mem_cons_self)
      exact if_neg (by omega)

theorem runsFrom_append (nonempty : word ≠ []) (unbroken : ∀ c ∈ word, isBlank c = false) (closes : Closes rest) :
    runsFrom offset (word ++ rest) = (offset, word) :: runsFrom (offset + word.length) rest := by
  induction word generalizing offset with
  | nil => cases nonempty rfl
  | cons c others ih =>
    have first : isBlank c = false := unbroken c List.mem_cons_self
    cases others with
    | nil => exact runsFrom_single first closes
    | cons d others =>
      have later : runsFrom (offset + 1) (d :: others ++ rest) =
          (offset + 1, d :: others) :: runsFrom (offset + 1 + (d :: others).length) rest :=
        ih (List.cons_ne_nil d others) fun c among => unbroken c (List.mem_cons_of_mem _ among)
      rw [List.cons_append, runsFrom, later]
      simp only [first, Bool.false_eq_true, if_false, if_true, List.length_cons]
      rw [Nat.add_assoc, Nat.add_comm 1]

theorem map_runsFrom_joined (words : ∀ text ∈ texts, IsWord text) :
    (runsFrom offset (joined texts).toList).map Prod.snd = texts.map String.toList := by
  induction texts generalizing offset with
  | nil => rfl
  | cons text more ih =>
    obtain ⟨nonempty, unbroken⟩ := words text List.mem_cons_self
    cases more with
    | nil =>
      have alone : (joined [text]).toList = text.toList ++ [] := by simp [joined]
      rw [alone, runsFrom_append nonempty unbroken .done]
      rfl
    | cons next more =>
      rw [toList_joined_cons, runsFrom_append nonempty unbroken (.blank rfl), runsFrom_blank rfl, List.map_cons,
        ih fun text among => words text (List.mem_cons_of_mem _ among)]
      rfl

-- Words that are joined come apart again where they were joined.
theorem textsOf_tokens_joined (words : ∀ text ∈ texts, IsWord text) : textsOf (tokens (joined texts)) = texts := by
  have ofRuns : textsOf (tokens (joined texts)) = ((runs (joined texts).toList).map Prod.snd).map String.ofList := by
    simp [textsOf, tokens, runToken, Token.plain, Function.comp_def]
  rw [ofRuns, runs, map_runsFrom_joined words, List.map_map]
  exact List.map_id'' (fun text => String.ofList_toList) texts

end Words

end TextFeatures
