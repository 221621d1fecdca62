import Mathlib.Algebra.Ring.Nat
import TextFeatures.Proofs.Dictionary
import TextFeatures.Proofs.Results
import TextFeatures.Vocabulary

namespace TextFeatures

section Sorting
variable {α : Type} {before : α → α → Bool} {x : α} {xs ys : List α}

theorem insertBy_perm : (insertBy before x xs).Perm (x :: xs) := by
  induction xs with
  | nil => exact .refl _
  | cons y rest ih =>
    unfold insertBy
    split
    · exact .refl _
    · exact (ih.cons y).trans (.swap x y rest)

theorem sortBy_perm : (sortBy before xs).Perm xs := by
  induction xs with
  | nil => exact .refl _
  | cons x rest ih => exact insertBy_perm.trans (ih.cons x)

theorem insertBy_ordered (total : ∀ a b, before a b = true ∨ before b a = true)
    (trans : ∀ a b c, before a b = true → before b c = true → before a c = true)
    (ordered : xs.Pairwise fun a b => before a b = true) :
    (insertBy before x xs).Pairwise fun a b => before a b = true := by
  induction xs with
  | nil => exact List.pairwise_singleton _ x
  | cons y rest ih =>
    obtain ⟨above, later⟩ := List.pairwise_cons.mp ordered
    unfold insertBy
    split
    · rename_i first
      refine List.pairwise_cons.mpr ⟨fun z among => ?_, ordered⟩
      rcases List.mem_cons.mp among with rfl | behind
      · exact first
      · exact trans x y z first (above z behind)
    · rename_i notFirst
      refine List.pairwise_cons.mpr ⟨fun z among => ?_, ih later⟩
      rcases List.mem_cons.mp (insertBy_perm.mem_iff.mp among) with rfl | behind
      · exact (total z y).resolve_left notFirst
      · exact above z behind

theorem sortBy_ordered (total : ∀ a b, before a b = true ∨ before b a = true)
    (trans : ∀ a b c, before a b = true → before b c = true → before a c = true) :
    (sortBy before xs).Pairwise fun a b => before a b = true := by
  induction xs with
  | nil => exact .nil
  | cons x rest ih => exact insertBy_ordered total trans ih

theorem sortBy_key_ordered {κ : Type} [LE κ] [DecidableLE κ] [Std.IsLinearPreorder κ] (key : α → κ) :
    (sortBy (fun a b => decide (key a ≤ key b)) xs).Pairwise fun a b => key a ≤ key b := by
  refine (sortBy_ordered (fun a b => ?_) fun a b c first second => ?_).imp of_decide_eq_true
  · exact Std.le_total.imp decide_eq_true decide_eq_true
  · exact decide_eq_true (Std.le_trans (of_decide_eq_true first) (of_decide_eq_true second))

-- Where no two elements come before each other, there is one way only to sort a list, in whatever order it stood.
theorem eq_sortBy (total : ∀ a b, before a b = true ∨ before b a = true)
    (trans : ∀ a b c, before a b = true → before b c = true → before a c = true)
    (antisymm : ∀ a b, a ∈ ys → b ∈ ys → before a b = true → before b a = true → a = b) (shuffled : ys.Perm xs)
    (ordered : ys.Pairwise fun a b => before a b = true) : ys = sortBy before xs := by
  have same : ys.Perm (sortBy before xs) := shuffled.trans sortBy_perm.symm
  exact same.eq_of_pairwise (fun a b there thereToo => antisymm a b there (same.mem_iff.mpr thereToo)) ordered
    (sortBy_ordered total trans)

end Sorting

namespace Vocabulary

-- The columns of a vocabulary are the places of its terms in their order, and there is one at least.
structure Numbered (vocabulary : Vocabulary) : Prop where
  nonempty : vocabulary.indices.keys ≠ []
  inPlace : vocabulary.indices.entries = vocabulary.indices.keys.zipIdx

variable {vocabulary : Vocabulary} {term : String} {column : Nat} {terms : List String}
  {documents others : List (List String)} {bounds : VocabularyBounds}

theorem Numbered.index?_eq_some_iff (numbered : Numbered vocabulary) :
    vocabulary.index? term = some column ↔ vocabulary.indices.keys[column]? = some term := by
  rw [index?, Dictionary.get?_eq_some_iff, numbered.inPlace]
  exact List.mk_mem_zipIdx_iff_getElem?

theorem Numbered.index?_inj {other : String} (numbered : Numbered vocabulary)
    (found : vocabulary.index? term = some column) (foundToo : vocabulary.index? other = some column) :
    term = other := by
  rw [numbered.index?_eq_some_iff] at found foundToo
  exact Option.some.inj (found.symm.trans foundToo)

theorem Numbered.index?_lt_size (numbered : Numbered vocabulary)
    (found : vocabulary.index? term = some column) : column < vocabulary.size := by
  obtain ⟨inside, _⟩ := List.getElem?_eq_some_iff.mp (numbered.index?_eq_some_iff.mp found)
  simpa [Dictionary.keys, size, Dictionary.size] using inside

theorem Numbered.exists_index? (numbered : Numbered vocabulary) :
    ∃ term column, vocabulary.index? term = some column := by
  obtain ⟨term, more, keys⟩ := List.exists_cons_of_ne_nil numbered.nonempty
  exact ⟨term, 0, numbered.index?_eq_some_iff.mpr (by rw [keys]; rfl)⟩

theorem Numbered.count_index? (numbered : Numbered vocabulary) (found : vocabulary.index? term = some column) :
    (terms.filterMap vocabulary.index?).count column = terms.count term := by
  induction terms with
  | nil => rfl
  | cons first rest ih =>
    by_cases same : first = term
    · subst same
      rw [List.filterMap_cons_some found, List.count_cons_self, List.count_cons_self, ih]
    · rw [List.count_cons_of_ne same, ← ih]
      cases there : vocabulary.index? first with
      | none => rw [List.filterMap_cons_none there]
      | some other =>
        have elsewhere : other ≠ column := fun alike => same (numbered.index?_inj (alike ▸ there) found)
        rw [List.filterMap_cons_some there, List.count_cons_of_ne elsewhere]

theorem size_eq_length_keys : vocabulary.size = vocabulary.indices.keys.length := by
  simp [size, Dictionary.size, Dictionary.keys]

theorem Numbered.size_pos (numbered : Numbered vocabulary) : 0 < vocabulary.size := by
  rw [size_eq_length_keys]
  exact List.length_pos_iff.mpr numbered.nonempty

theorem zipIdx_ordered (ordered : terms.Pairwise (· < ·)) :
    terms.zipIdx.Pairwise fun a b => a.1 < b.1 := by
  rw [← List.pairwise_map (f := Prod.fst) (R := (· < ·)), List.zipIdx_map_fst]
  exact ordered

theorem entries_ofTerms : (ofTerms terms).indices.entries = (sortedDistinct terms).zipIdx :=
  Dictionary.entries_ofList (zipIdx_ordered (sortedDistinct_ordered terms))

theorem keys_ofTerms : (ofTerms terms).indices.keys = sortedDistinct terms := by
  rw [Dictionary.keys, entries_ofTerms, List.zipIdx_map_fst]

theorem numbered_ofTerms (some : terms ≠ []) : Numbered (ofTerms terms) where
  nonempty := by
    obtain ⟨term, member⟩ := List.exists_mem_of_ne_nil terms some
    exact List.ne_nil_of_mem (keys_ofTerms ▸ mem_sortedDistinct.mpr member)
  inPlace := by rw [entries_ofTerms, keys_ofTerms]

theorem mem_of_mem_keepMostFrequent {limit : Option Nat} {counted : List (String × Nat)} {entry : String × Nat}
    (kept : entry ∈ keepMostFrequent limit counted) : entry ∈ counted := by
  unfold keepMostFrequent at kept
  split at kept
  · exact kept
  · split at kept
    · exact sortBy_perm.mem_iff.mp (List.mem_of_mem_take kept)
    · exact kept

theorem get?_documentFrequencies (occurs : ∃ document ∈ documents, term ∈ document) :
    (documentFrequencies documents).get? term = some (documents.countP (term ∈ ·)) := by
  obtain ⟨document, member, inside⟩ := occurs
  have among : term ∈ documents.flatMap sortedDistinct :=
    List.mem_flatMap.mpr ⟨document, member, mem_sortedDistinct.mpr inside⟩
  rw [documentFrequencies, Dictionary.get?_tally, if_pos among, count_flatMap_sortedDistinct]

theorem get?_termFrequencies (occurs : ∃ document ∈ documents, term ∈ document) :
    (termFrequencies documents).get? term = some (documents.map (List.count term)).sum := by
  rw [termFrequencies, Dictionary.get?_tally, if_pos (List.mem_flatten.mpr occurs), List.count_flatten]

def Within (documents : List (List String)) (bounds : VocabularyBounds) (term : String) : Prop :=
  ∃ frequency, (documentFrequencies documents).get? term = some frequency ∧
    bounds.least.resolve documents.length ≤ Float.ofNat frequency ∧
    Float.ofNat frequency ≤ bounds.most.resolve documents.length

theorem terms_of_build (built : build documents bounds = .ok vocabulary) :
    ∃ terms, terms ≠ [] ∧ vocabulary = ofTerms terms ∧ ∀ term ∈ terms, Within documents bounds term := by
  simp only [build] at built
  split at built
  · cases built
  · split at built
    · cases built
    · split at built
      · cases built
      · rename_i some
        refine ⟨_, by simpa using some, (Except.ok.inj built).symm, fun term among => ?_⟩
        obtain ⟨_, kept, rfl⟩ := List.mem_map.mp among
        obtain ⟨entry, inBounds, rfl⟩ := List.mem_map.mp (mem_of_mem_keepMostFrequent kept)
        obtain ⟨counted, within⟩ := List.mem_filter.mp inBounds
        simp only [Bool.and_eq_true, decide_eq_true_eq] at within
        exact ⟨entry.2, Dictionary.get?_eq_some_iff.mpr counted, within⟩

theorem numbered_build (built : build documents bounds = .ok vocabulary) : Numbered vocabulary := by
  obtain ⟨terms, some, rfl, _⟩ := terms_of_build built
  exact numbered_ofTerms some

theorem within_of_build (built : build documents bounds = .ok vocabulary)
    (found : vocabulary.index? term = some column) : Within documents bounds term := by
  obtain ⟨terms, _, rfl, within⟩ := terms_of_build built
  have among := Dictionary.contains_iff_mem_keys.mp (Option.isSome_iff_exists.mpr ⟨column, found⟩)
  rw [keys_ofTerms, mem_sortedDistinct] at among
  exact within term among

theorem exists_mem_of_build (built : build documents bounds = .ok vocabulary)
    (found : vocabulary.index? term = some column) : ∃ document ∈ documents, term ∈ document := by
  obtain ⟨frequency, counted, _⟩ := within_of_build built found
  obtain ⟨document, member, distinct⟩ :=
    List.mem_flatMap.mp (Dictionary.mem_of_mem_tally (Dictionary.get?_eq_some_iff.mp counted))
  exact ⟨document, member, mem_sortedDistinct.mp distinct⟩

-- What is counted is counted over all documents, and nothing else is taken from them.
theorem build_perm (shuffled : documents.Perm others) : build documents bounds = build others bounds := by
  have perDocument : documentFrequencies documents = documentFrequencies others :=
    Dictionary.tally_perm (shuffled.flatMap_right _)
  have perTerm : termFrequencies documents = termFrequencies others := Dictionary.tally_perm shuffled.flatten
  simp only [build, perDocument, perTerm, shuffled.length_eq]

end Vocabulary

end TextFeatures
