import TextFeatures.Normalizer
import TextFeatures.Proofs.Text.Numbers

namespace TextFeatures

variable {part whole left rest text : List Char} {c : Char} {offset low : Nat}

theorem occursIn_iff : occursIn part whole = true ↔ part <:+: whole := by
  induction whole with
  | nil => rw [occursIn, List.isEmpty_iff, List.infix_nil]
  | cons c rest ih => rw [occursIn, Bool.or_eq_true, List.isPrefixOf_iff_prefix, ih, List.infix_cons_iff]

-- What goes over a place where a text is cut has the character in it that stands there.
theorem infix_of_cut (absent : c ∉ part) (within : part <:+: left ++ c :: rest) : part <:+: left ∨ part <:+: rest := by
  induction left with
  | nil =>
    rw [List.nil_append, List.infix_cons_iff] at within
    rcases within with first | behind
    · cases part with
      | nil => exact .inl List.nil_infix
      | cons d more =>
        obtain ⟨rfl, _⟩ := List.cons_prefix_cons.mp first
        exact absurd List.mem_cons_self absent
    · exact .inr behind
  | cons d left ih =>
    rw [List.cons_append, List.infix_cons_iff] at within
    rcases within with first | behind
    · have upToHere : d :: left ++ [c] <+: d :: (left ++ c :: rest) := ⟨rest, by simp⟩
      rcases List.prefix_or_prefix_of_prefix first upToHere with short | long
      · rcases List.prefix_concat_iff.mp short with rfl | inLeft
        · exact absurd List.mem_concat_self absent
        · exact .inl inLeft.isInfix
      · exact absurd (long.subset List.mem_concat_self) absent
    · exact (ih behind).imp_left fun inLeft => inLeft.trans (List.suffix_cons d left).isInfix

namespace Pattern
open Unicode Text

variable {found : List Match} {one : Match} {pattern : Pattern} {token : Token} {document : String}

theorem Laid.within (laid : Laid text low found) (member : one ∈ found) : one.text <:+: text := by
  induction laid with
  | nil => cases member
  | cons _ _ _ piece _ ih =>
    rcases List.mem_cons.mp member with rfl | behind
    · rw [piece]
      exact (List.drop_suffix _ _).isInfix.trans (List.take_prefix _ _).isInfix
    · exact ih behind

-- Whatever the pattern is, a token occurs in the text that it was taken from.
theorem infix_of_mem_tokens (member : token ∈ pattern.tokens document) : token.text.toList <:+: document.toList := by
  obtain ⟨one, among, rfl⟩ := List.mem_map.mp member
  rw [matchToken, Token.plain, String.toList_ofList]
  exact (laid_findAll pattern document).within among

def numberName : List Char := ['N', 'U', 'M', 'B', 'E', 'R']

theorem infix_of_marked (absent : '_' ∉ part) (within : part <:+: left ++ (numberMarker.toList ++ rest)) :
    part <:+: left ∨ part <:+: numberName ∨ part <:+: rest := by
  have spelled : numberMarker.toList ++ rest = '_' :: ([] ++ '_' :: (numberName ++ '_' :: ([] ++ '_' :: rest))) := by
    rw [toList_numberMarker]
    rfl
  have nowhere (none : part <:+: []) : part <:+: left := none.trans List.nil_infix
  rw [spelled] at within
  rcases infix_of_cut absent within with before | within
  · exact .inl before
  rcases infix_of_cut absent within with none | within
  · exact .inl (nowhere none)
  rcases infix_of_cut absent within with inside | within
  · exact .inr (.inl inside)
  rcases infix_of_cut absent within with none | behind
  · exact .inl (nowhere none)
  · exact .inr (.inr behind)

-- What occurs once numbers are replaced has occurred before, or goes over a marker that was put in. The text in front
-- of what is still to be replaced is arbitrary, for something may start in it.
theorem infix_of_infix_splice (absent : '_' ∉ part) (within : part <:+: left ++
      spliceFrom numberMarker.toList offset text (matchedRuns isNumber offset text)) :
    part <:+: numberName ∨ part <:+: left ++ text := by
  induction text using stretch_induction isWord generalizing left offset with
  | whole word all =>
    rw [splice_whole rfl all, replaced] at within
    split at within
    · rw [← List.append_nil numberMarker.toList] at within
      rcases infix_of_marked absent within with before | inside | none
      · exact .inr (before.trans (List.prefix_append left word).isInfix)
      · exact .inl inside
      · exact .inl (none.trans List.nil_infix)
    · exact .inr within
  | cut word c rest all out ih =>
    rw [splice_cut rfl all out, replaced] at within
    split at within
    · rcases infix_of_marked absent within with before | inside | behind
      · exact .inr (before.trans (List.prefix_append left _).isInfix)
      · exact .inl inside
      · refine (@ih [c] _ behind).imp_right fun later => ?_
        exact later.trans ⟨left ++ word, [], by simp⟩
    · have regrouped : left ++ (word ++ c :: spliceFrom numberMarker.toList (offset + word.length + 1) rest
          (matchedRuns isNumber (offset + word.length + 1) rest)) = (left ++ word ++ [c]) ++
            spliceFrom numberMarker.toList (offset + word.length + 1) rest
              (matchedRuns isNumber (offset + word.length + 1) rest) := by simp
      rw [regrouped] at within
      refine (ih within).imp_right fun later => ?_
      rwa [List.append_assoc, List.append_assoc, List.singleton_append] at later

theorem collapseNumbers_of_none (none : ∀ run ∈ runs isWord document.toList, isNumber run = false) :
    (collapseNumbers document).toList = document.toList := by
  have unmatched : matchedRuns isNumber 0 document.toList = [] := by
    rw [matchedRuns, List.map_eq_nil_iff, List.filter_eq_nil_iff]
    intro run among
    rw [none run.2 (List.mem_map_of_mem among)]
    exact Bool.false_ne_true
  rw [toList_collapseNumbers, unmatched, spliceFrom]

-- Replacing numbers makes something occur only where there is a number, and only what can be a part of the marker or go
-- over the end of one.
theorem infix_of_infix_collapseNumbers (within : part <:+: (collapseNumbers document).toList) :
    part <:+: document.toList ∨
      (∃ run ∈ runs isWord document.toList, isNumber run = true) ∧ ('_' ∈ part ∨ part <:+: numberName) := by
  by_cases numbered : ∃ run ∈ runs isWord document.toList, isNumber run = true
  · by_cases absent : '_' ∈ part
    · exact .inr ⟨numbered, .inl absent⟩
    · rw [toList_collapseNumbers, ← List.nil_append (spliceFrom _ _ _ _)] at within
      rcases infix_of_infix_splice absent within with inside | before
      · exact .inr ⟨numbered, .inr inside⟩
      · exact .inl before
  · have none : ∀ run ∈ runs isWord document.toList, isNumber run = false := by
      intro run among
      rw [Bool.eq_false_iff]
      exact fun number => numbered ⟨run, among, number⟩
    rw [collapseNumbers_of_none none] at within
    exact .inl within

end Pattern

end TextFeatures
