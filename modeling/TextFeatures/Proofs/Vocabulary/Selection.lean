import TextFeatures.Proofs.Doubles
import TextFeatures.Proofs.Vocabulary

namespace TextFeatures.Vocabulary

-- What a vocabulary should hold is told here by counting in the documents, without a table of counts and without
-- sorting.

-- In how many documents a term is found, and how often in all of them together.

def documentCount (documents : List (List String)) (term : String) : Nat := documents.countP (term ∈ ·)

def occurrenceCount (documents : List (List String)) (term : String) : Nat := documents.flatten.count term

structure InBounds (documents : List (List String)) (bounds : VocabularyBounds) (term : String) : Prop where
  occurs : ∃ document ∈ documents, term ∈ document
  enough : bounds.least.resolve documents.length ≤ Float.ofNat (documentCount documents term)
  notTooMany : Float.ofNat (documentCount documents term) ≤ bounds.most.resolve documents.length

def Outranks (documents : List (List String)) (a b : String) : Prop :=
  occurrenceCount documents b < occurrenceCount documents a ∨
    occurrenceCount documents a = occurrenceCount documents b ∧ a < b

-- All terms within the bounds, by rank.
structure Ranking (documents : List (List String)) (bounds : VocabularyBounds) (ranking : List String) : Prop where
  byRank : ranking.Pairwise (Outranks documents)
  mem_iff : ∀ term, term ∈ ranking ↔ InBounds documents bounds term

def firstOf : Option Nat → List String → List String
  | none, terms => terms
  | some limit, terms => terms.take limit

-- The columns of a vocabulary are the places of its terms in increasing order.
structure Holds (vocabulary : Vocabulary) (kept : List String) : Prop where
  contains_iff : ∀ term, vocabulary.contains term = true ↔ term ∈ kept
  index? : ∀ term ∈ kept, vocabulary.index? term = some (kept.countP (· < term))
  mem_terms : ∀ term, term ∈ vocabulary.terms ↔ term ∈ kept
  increasing : vocabulary.terms.Pairwise (· < ·)

inductive Outcome (documents : List (List String)) (bounds : VocabularyBounds) :
    Except VocabularyError Vocabulary → Prop
  | empty : (∀ document ∈ documents, document = []) → Outcome documents bounds (.error .empty)
  | inconsistent : (∃ document ∈ documents, document ≠ []) →
      bounds.most.resolve documents.length < bounds.least.resolve documents.length →
      Outcome documents bounds (.error
        (.inconsistent (bounds.least.resolve documents.length) (bounds.most.resolve documents.length)))
  | pruned {ranking : List String} : (∃ document ∈ documents, document ≠ []) →
      ¬bounds.most.resolve documents.length < bounds.least.resolve documents.length →
      Ranking documents bounds ranking → firstOf bounds.limit ranking = [] → Outcome documents bounds (.error .pruned)
  | built {ranking : List String} {vocabulary : Vocabulary} : (∃ document ∈ documents, document ≠ []) →
      ¬bounds.most.resolve documents.length < bounds.least.resolve documents.length →
      Ranking documents bounds ranking → firstOf bounds.limit ranking ≠ [] →
      Holds vocabulary (firstOf bounds.limit ranking) → Outcome documents bounds (.ok vocabulary)

variable {documents : List (List String)} {bounds : VocabularyBounds} {vocabulary : Vocabulary}
  {result other : Except VocabularyError Vocabulary} {ranking ranked words : List String} {a b term : String}

theorem not_outranks_self : ¬Outranks documents a a := by
  rintro (more | ⟨_, before⟩)
  · exact Nat.lt_irrefl _ more
  · exact String.lt_irrefl a before

theorem Outranks.asymm (above : Outranks documents a b) : ¬Outranks documents b a := by
  rcases above with more | ⟨same, before⟩
  · rintro (less | ⟨same, _⟩) <;> omega
  · rintro (less | ⟨_, after⟩)
    · omega
    · exact String.lt_asymm before after

theorem Ranking.nodup (given : Ranking documents bounds ranking) : ranking.Nodup := by
  refine given.byRank.imp ?_
  rintro a _ above rfl
  exact not_outranks_self above

theorem Ranking.unique (given : Ranking documents bounds ranking) (givenToo : Ranking documents bounds ranked) :
    ranking = ranked := by
  have shuffled : ranking.Perm ranked := by
    refine (List.perm_ext_iff_of_nodup given.nodup givenToo.nodup).mpr fun term => ?_
    rw [given.mem_iff, givenToo.mem_iff]
  exact shuffled.eq_of_pairwise (fun a b _ _ above below => absurd below above.asymm) given.byRank givenToo.byRank

theorem Holds.unique {another : Vocabulary} (holds : Holds vocabulary words) (holdsToo : Holds another words) :
    vocabulary = another := by
  have absent {given : Vocabulary} {term : String} (holds : Holds given words) (outside : term ∉ words) :
      given.indices.get? term = none :=
    Option.not_isSome_iff_eq_none.mp fun found => outside ((holds.contains_iff term).mp found)
  have same : vocabulary.indices = another.indices := by
    refine Dictionary.eq_of_get? fun term => ?_
    by_cases inside : term ∈ words
    · exact (holds.index? term inside).trans (holdsToo.index? term inside).symm
    · rw [absent holds inside, absent holdsToo inside]
  cases vocabulary
  exact congrArg Vocabulary.mk same

theorem Outcome.unique (outcome : Outcome documents bounds result) (outcomeToo : Outcome documents bounds other) :
    result = other := by
  have absent {goal : Prop} (noTerm : ∀ document ∈ documents, document = [])
      (term : ∃ document ∈ documents, document ≠ []) : goal :=
    absurd (noTerm _ term.choose_spec.1) term.choose_spec.2
  cases outcome with
  | empty noTerm =>
    cases outcomeToo with
    | empty => rfl
    | inconsistent term | pruned term | built term => exact absent noTerm term
  | inconsistent term crossed =>
    cases outcomeToo with
    | empty noTerm => exact absent noTerm term
    | inconsistent => rfl
    | pruned _ apart | built _ apart => exact absurd crossed apart
  | pruned term apart given none =>
    cases outcomeToo with
    | empty noTerm => exact absent noTerm term
    | inconsistent _ crossed => exact absurd crossed apart
    | pruned => rfl
    | built _ _ givenToo some => exact absurd (given.unique givenToo ▸ none) some
  | built term apart given some holds =>
    cases outcomeToo with
    | empty noTerm => exact absent noTerm term
    | inconsistent _ crossed => exact absurd crossed apart
    | pruned _ _ givenToo none => exact absurd (given.unique givenToo ▸ none) some
    | built _ _ givenToo _ holdsToo =>
      obtain rfl := given.unique givenToo
      rw [holds.unique holdsToo]

-- The terms within the bounds as they come out of the table of counts, each with its number of occurrences.
def counted (documents : List (List String)) (bounds : VocabularyBounds) (entries : List (String × Nat)) :
    List (String × Nat) :=
  (entries.filter fun entry =>
    bounds.least.resolve documents.length ≤ Float.ofNat entry.2 &&
      Float.ofNat entry.2 ≤ bounds.most.resolve documents.length).map fun entry =>
    (entry.1, ((termFrequencies documents).get? entry.1).getD 0)

theorem counted_perm (documents : List (List String)) (bounds : VocabularyBounds) {entries others : List (String × Nat)}
    (shuffled : entries.Perm others) : (counted documents bounds entries).Perm (counted documents bounds others) :=
  (shuffled.filter _).map _

theorem mem_entries_iff {entry : String × Nat} : entry ∈ (documentFrequencies documents).entries ↔
    (∃ document ∈ documents, entry.1 ∈ document) ∧ entry.2 = documentCount documents entry.1 := by
  constructor
  · intro among
    obtain ⟨document, there, distinct⟩ := List.mem_flatMap.mp (Dictionary.mem_of_mem_tally among)
    have occurs : ∃ document ∈ documents, entry.1 ∈ document := ⟨document, there, mem_sortedDistinct.mp distinct⟩
    have found : (documentFrequencies documents).get? entry.1 = some entry.2 := Dictionary.get?_eq_some_iff.mpr among
    rw [get?_documentFrequencies occurs] at found
    exact ⟨occurs, (Option.some.inj found).symm⟩
  · rintro ⟨occurs, count⟩
    refine Dictionary.get?_eq_some_iff.mp ?_
    rw [get?_documentFrequencies occurs, count]
    rfl

theorem mem_counted_iff {entry : String × Nat} :
    entry ∈ counted documents bounds (documentFrequencies documents).entries ↔
      InBounds documents bounds entry.1 ∧ entry.2 = occurrenceCount documents entry.1 := by
  have total {term : String} (occurs : ∃ document ∈ documents, term ∈ document) :
      ((termFrequencies documents).get? term).getD 0 = occurrenceCount documents term := by
    rw [get?_termFrequencies occurs, Option.getD_some, occurrenceCount, List.count_flatten]
  rw [counted, List.mem_map]
  constructor
  · rintro ⟨counts, among, rfl⟩
    obtain ⟨there, within⟩ := List.mem_filter.mp among
    obtain ⟨occurs, count⟩ := mem_entries_iff.mp there
    rw [count, Bool.and_eq_true, decide_eq_true_eq, decide_eq_true_eq] at within
    exact ⟨⟨occurs, within.1, within.2⟩, total occurs⟩
  · rintro ⟨inBounds, count⟩
    refine ⟨(entry.1, documentCount documents entry.1), List.mem_filter.mpr ⟨?_, ?_⟩, ?_⟩
    · exact mem_entries_iff.mpr ⟨inBounds.occurs, rfl⟩
    · rw [Bool.and_eq_true, decide_eq_true_eq, decide_eq_true_eq]
      exact ⟨inBounds.enough, inBounds.notTooMany⟩
    · rw [total inBounds.occurs, ← count]

theorem nodup_counted : ((counted documents bounds (documentFrequencies documents).entries).map Prod.fst).Nodup := by
  rw [counted, List.map_map]
  have distinct : (documentFrequencies documents).keys.Nodup :=
    nodup_of_increasing (List.pairwise_map.mpr (documentFrequencies documents).ordered)
  exact distinct.sublist (List.filter_sublist.map _)

theorem ranksBefore_iff {a b : String × Nat} : ranksBefore a b = true ↔ b.2 < a.2 ∨ a.2 = b.2 ∧ a.1 ≤ b.1 := by
  simp [ranksBefore]

theorem ranksBefore_total (a b : String × Nat) : ranksBefore a b = true ∨ ranksBefore b a = true := by
  simp only [ranksBefore_iff]
  rcases Nat.lt_trichotomy a.2 b.2 with less | same | more
  · exact .inr (.inl less)
  · exact (String.le_total a.1 b.1).imp (fun before => .inr ⟨same, before⟩) fun after => .inr ⟨same.symm, after⟩
  · exact .inl (.inl more)

theorem ranksBefore_trans (a b c : String × Nat) (first : ranksBefore a b = true) (second : ranksBefore b c = true) :
    ranksBefore a c = true := by
  rw [ranksBefore_iff] at first second ⊢
  rcases first with more | ⟨same, before⟩
  · exact .inl (by omega)
  · rcases second with more | ⟨sameToo, beforeToo⟩
    · exact .inl (by omega)
    · exact .inr ⟨same.trans sameToo, String.le_trans before beforeToo⟩

theorem ranksBefore_antisymm (a b : String × Nat) (first : ranksBefore a b = true) (second : ranksBefore b a = true) :
    a = b := by
  rw [ranksBefore_iff] at first second
  have same : a.2 = b.2 := by omega
  have before : a.1 ≤ b.1 := (first.resolve_left (by omega)).2
  have after : b.1 ≤ a.1 := (second.resolve_left (by omega)).2
  exact Prod.ext (String.le_antisymm before after) same

theorem ranking_sortBy : Ranking documents bounds
    ((sortBy ranksBefore (counted documents bounds (documentFrequencies documents).entries)).map Prod.fst) where
  byRank := by
    have distinct : ((sortBy ranksBefore (counted documents bounds
        (documentFrequencies documents).entries)).map Prod.fst).Nodup :=
      nodup_counted.perm (sortBy_perm.symm.map Prod.fst)
    rw [List.pairwise_map]
    refine ((sortBy_ordered ranksBefore_total ranksBefore_trans).and (List.pairwise_map.mp distinct)).imp_of_mem ?_
    rintro a b there thereToo ⟨before, apart⟩
    obtain ⟨_, count⟩ := mem_counted_iff.mp (sortBy_perm.mem_iff.mp there)
    obtain ⟨_, countToo⟩ := mem_counted_iff.mp (sortBy_perm.mem_iff.mp thereToo)
    rw [ranksBefore_iff, count, countToo] at before
    refine before.imp_right fun ⟨same, le⟩ => ⟨same, ?_⟩
    exact String.not_le.mp fun ge => apart (String.le_antisymm le ge)
  mem_iff term := by
    rw [List.mem_map]
    constructor
    · rintro ⟨entry, there, rfl⟩
      exact (mem_counted_iff.mp (sortBy_perm.mem_iff.mp there)).1
    · intro inBounds
      exact ⟨(term, occurrenceCount documents term), sortBy_perm.mem_iff.mpr (mem_counted_iff.mpr ⟨inBounds, rfl⟩), rfl⟩

theorem firstOf_sublist (limit : Option Nat) : (firstOf limit ranking).Sublist ranking := by
  cases limit with
  | none => exact .refl ranking
  | some limit => exact List.take_sublist limit ranking

theorem keepMostFrequent_perm (limit : Option Nat) (entries : List (String × Nat)) :
    ((keepMostFrequent limit entries).map Prod.fst).Perm
      (firstOf limit ((sortBy ranksBefore entries).map Prod.fst)) := by
  have sorted : ((sortBy ranksBefore entries).map Prod.fst).Perm (entries.map Prod.fst) := sortBy_perm.map Prod.fst
  unfold keepMostFrequent
  split
  · exact sorted.symm
  · rename_i n
    rw [firstOf]
    split
    · rw [List.map_take]
    · rename_i few
      rw [List.take_of_length_le (by simpa [sortBy_perm.length_eq] using few)]
      exact sorted.symm

theorem nodup_keepMostFrequent (documents : List (List String)) (bounds : VocabularyBounds) :
    ((keepMostFrequent bounds.limit
    (counted documents bounds (documentFrequencies documents).entries)).map Prod.fst).Nodup := by
  have given : Ranking documents bounds _ := ranking_sortBy
  exact (keepMostFrequent_perm _ _).nodup_iff.mpr (given.nodup.sublist (firstOf_sublist bounds.limit))

theorem places_ordered : words.zipIdx.Pairwise fun a b => a.2 ≤ b.2 := by
  have places : (words.zipIdx.map Prod.snd).Pairwise (· ≤ ·) := by
    rw [List.zipIdx_map_snd]
    exact List.pairwise_le_range'
  exact List.pairwise_map.mp places

theorem eq_of_same_place {entry another : String × Nat} (there : entry ∈ words.zipIdx)
    (thereToo : another ∈ words.zipIdx) (same : entry.2 = another.2) : entry = another := by
  have found := List.mk_mem_zipIdx_iff_getElem?.mp there
  have foundToo := List.mk_mem_zipIdx_iff_getElem?.mp thereToo
  rw [← same] at foundToo
  exact Prod.ext (Option.some.inj (found.symm.trans foundToo)) same

-- The entries of a vocabulary, sorted by their columns in whatever way, are in the order of the terms.
theorem Numbered.eq_entries {entries : List (String × Nat)} (numbered : vocabulary.Numbered)
    (shuffled : entries.Perm vocabulary.indices.entries) (ordered : entries.Pairwise fun a b => a.2 ≤ b.2) :
    entries = vocabulary.indices.entries := by
  rw [numbered.inPlace] at shuffled ⊢
  refine shuffled.eq_of_pairwise (fun a b there thereToo before after => ?_) ordered places_ordered
  exact eq_of_same_place (shuffled.mem_iff.mp there) thereToo (Nat.le_antisymm before after)

theorem Numbered.terms_eq (numbered : vocabulary.Numbered) : vocabulary.terms = vocabulary.indices.keys := by
  rw [terms, numbered.eq_entries sortBy_perm (sortBy_key_ordered Prod.snd)]
  rfl

theorem holds_ofTerms {kept : List String} (some : words ≠ []) (distinct : words.Nodup) (shuffled : words.Perm kept) :
    Holds (ofTerms words) kept where
  contains_iff term := by
    rw [contains, Dictionary.contains_iff_mem_keys, keys_ofTerms, mem_sortedDistinct, shuffled.mem_iff]
  index? term among := by
    have numbered := numbered_ofTerms some
    have sorted : (sortedDistinct words).Perm kept := by
      refine .trans ?_ shuffled
      refine (List.perm_ext_iff_of_nodup (nodup_of_increasing (sortedDistinct_ordered words)) distinct).mpr ?_
      exact fun term => mem_sortedDistinct
    obtain ⟨i, there⟩ := List.mem_iff_getElem?.mp (sorted.mem_iff.mpr among)
    rw [numbered.index?_eq_some_iff, keys_ofTerms, ← sorted.countP_eq,
      countP_eq_of_increasing (sortedDistinct_ordered words) there]
    exact there
  mem_terms term := by
    rw [(numbered_ofTerms some).terms_eq, keys_ofTerms, mem_sortedDistinct, shuffled.mem_iff]
  increasing := by
    rw [(numbered_ofTerms some).terms_eq, keys_ofTerms]
    exact sortedDistinct_ordered words

theorem size_eq_zero_iff : (documentFrequencies documents).size = 0 ↔ ∀ document ∈ documents, document = [] := by
  rw [Dictionary.size, List.length_eq_zero_iff, List.eq_nil_iff_forall_not_mem]
  constructor
  · intro none document there
    refine List.eq_nil_iff_forall_not_mem.mpr fun term inside => none (term, documentCount documents term) ?_
    exact mem_entries_iff.mpr ⟨⟨document, there, inside⟩, rfl⟩
  · intro none entry among
    obtain ⟨⟨document, there, inside⟩, _⟩ := mem_entries_iff.mp among
    rw [none document there] at inside
    cases inside

theorem outcome_build : Outcome documents bounds (build documents bounds) := by
  have whole : build documents bounds =
      if (documentFrequencies documents).size = 0 then .error .empty
      else if bounds.most.resolve documents.length < bounds.least.resolve documents.length then
        .error (.inconsistent (bounds.least.resolve documents.length) (bounds.most.resolve documents.length))
      else
        let kept := keepMostFrequent bounds.limit (counted documents bounds (documentFrequencies documents).entries)
        if kept.isEmpty then .error .pruned else .ok (ofTerms (kept.map Prod.fst)) := rfl
  rw [whole]
  by_cases noTerm : (documentFrequencies documents).size = 0
  · rw [if_pos noTerm]
    exact .empty (size_eq_zero_iff.mp noTerm)
  have term : ∃ document ∈ documents, document ≠ [] := by simpa [size_eq_zero_iff] using noTerm
  rw [if_neg noTerm]
  by_cases crossed : bounds.most.resolve documents.length < bounds.least.resolve documents.length
  · rw [if_pos crossed]
    exact .inconsistent term crossed
  rw [if_neg crossed]
  have shuffled := keepMostFrequent_perm bounds.limit
    (counted documents bounds (documentFrequencies documents).entries)
  have distinct := nodup_keepMostFrequent documents bounds
  generalize keepMostFrequent bounds.limit (counted documents bounds (documentFrequencies documents).entries) = kept
    at shuffled distinct ⊢
  have given : Ranking documents bounds _ := ranking_sortBy
  dsimp only
  split
  · rename_i none
    rw [List.isEmpty_iff.mp none] at shuffled
    exact .pruned term crossed given (List.nil_perm.mp shuffled)
  · rename_i some
    have nonempty : kept.map Prod.fst ≠ [] := by simpa using some
    refine .built term crossed given ?_ (holds_ofTerms nonempty distinct shuffled)
    exact fun none => nonempty (List.perm_nil.mp (none ▸ shuffled))

-- A term that is within the bounds, and among the first by rank where their number is limited.
def Kept (documents : List (List String)) (bounds : VocabularyBounds) (term : String) : Prop :=
  ∃ ranking, Ranking documents bounds ranking ∧ term ∈ firstOf bounds.limit ranking

theorem contains_iff_kept (built : build documents bounds = .ok vocabulary) :
    vocabulary.contains term = true ↔ Kept documents bounds term := by
  have outcome : Outcome documents bounds (.ok vocabulary) := built ▸ outcome_build
  cases outcome with
  | built _ _ given _ holds =>
    rw [holds.contains_iff]
    exact ⟨fun among => ⟨_, given, among⟩, fun ⟨_, givenToo, among⟩ => given.unique givenToo ▸ among⟩

-- The order in which a table tells its entries is not known, nor in which of several possible ways a list is sorted.
structure Orders where
  listed : List (String × Nat) → List (String × Nat)
  byRank : List (String × Nat) → List (String × Nat)
  byTerm : List (String × Nat) → List (String × Nat)
  byColumn : List (String × Nat) → List (String × Nat)
  listed_perm : ∀ entries, (listed entries).Perm entries
  byRank_perm : ∀ entries, (byRank entries).Perm entries
  byTerm_perm : ∀ entries, (byTerm entries).Perm entries
  byColumn_perm : ∀ entries, (byColumn entries).Perm entries
  byRank_ordered : ∀ entries, (byRank entries).Pairwise fun a b => ranksBefore a b = true
  byTerm_ordered : ∀ entries, (byTerm entries).Pairwise fun a b => a.1 ≤ b.1
  byColumn_ordered : ∀ entries, (byColumn entries).Pairwise fun a b => a.2 ≤ b.2

namespace Orders

variable (orders : Orders)

def keepMostFrequent (limit : Option Nat) (entries : List (String × Nat)) : List (String × Nat) :=
  match limit with
  | none => entries
  | some n => if n < entries.length then (orders.byRank entries).take n else entries

def build (documents : List (List String)) (bounds : VocabularyBounds) : Except VocabularyError Vocabulary :=
  let frequencies := orders.listed (documentFrequencies documents).entries
  let least := bounds.least.resolve documents.length
  let most := bounds.most.resolve documents.length
  if frequencies.isEmpty then .error .empty
  else if most < least then .error (.inconsistent least most)
  else
    let kept := orders.keepMostFrequent bounds.limit (counted documents bounds frequencies)
    if kept.isEmpty then .error .pruned
    else .ok ⟨Dictionary.ofList ((orders.byTerm kept).map Prod.fst).zipIdx⟩

def terms (vocabulary : Vocabulary) : List String :=
  (orders.byColumn (orders.listed vocabulary.indices.entries)).map Prod.fst

theorem keepMostFrequent_perm (limit : Option Nat) {entries others : List (String × Nat)}
    (shuffled : entries.Perm others) :
    (orders.keepMostFrequent limit entries).Perm (Vocabulary.keepMostFrequent limit others) := by
  cases limit with
  | none => exact shuffled
  | some n =>
    have sorted : orders.byRank entries = sortBy ranksBefore others :=
      eq_sortBy ranksBefore_total ranksBefore_trans (fun a b _ _ => ranksBefore_antisymm a b)
        ((orders.byRank_perm entries).trans shuffled) (orders.byRank_ordered entries)
    rw [keepMostFrequent, Vocabulary.keepMostFrequent, shuffled.length_eq, sorted]
    split
    · exact .refl _
    · exact shuffled

theorem byTerm_eq {entries others : List (String × Nat)} (shuffled : entries.Perm others)
    (distinct : (others.map Prod.fst).Nodup) :
    (orders.byTerm entries).map Prod.fst = sortedDistinct (others.map Prod.fst) := by
  have sorted := ((orders.byTerm_perm entries).trans shuffled).map Prod.fst
  have increasing : ((orders.byTerm entries).map Prod.fst).Pairwise (· < ·) := by
    have ordered : ((orders.byTerm entries).map Prod.fst).Pairwise (· ≤ ·) :=
      List.pairwise_map.mpr (orders.byTerm_ordered entries)
    exact (ordered.and (sorted.nodup_iff.mpr distinct)).imp fun ⟨le, apart⟩ =>
      String.not_le.mp fun ge => apart (String.le_antisymm le ge)
  refine eq_of_increasing increasing (sortedDistinct_ordered _) fun term => ?_
  rw [sorted.mem_iff, mem_sortedDistinct]

theorem build_eq : orders.build documents bounds = Vocabulary.build documents bounds := by
  have listed := orders.listed_perm (documentFrequencies documents).entries
  have shuffled := orders.keepMostFrequent_perm bounds.limit (counted_perm documents bounds listed)
  have distinct := nodup_keepMostFrequent documents bounds
  have empty : (orders.listed (documentFrequencies documents).entries).isEmpty = true ↔
      (documentFrequencies documents).size = 0 := by
    rw [List.isEmpty_iff, Dictionary.size, ← listed.length_eq, List.length_eq_zero_iff]
  have none : (orders.keepMostFrequent bounds.limit (counted documents bounds
        (orders.listed (documentFrequencies documents).entries))).isEmpty =
      (Vocabulary.keepMostFrequent bounds.limit
        (counted documents bounds (documentFrequencies documents).entries)).isEmpty := by
    rw [Bool.eq_iff_iff, List.isEmpty_iff, List.isEmpty_iff, ← List.length_eq_zero_iff, shuffled.length_eq,
      List.length_eq_zero_iff]
  simp only [build, empty, none, orders.byTerm_eq shuffled distinct]
  rfl

theorem terms_eq (numbered : vocabulary.Numbered) : orders.terms vocabulary = vocabulary.terms := by
  rw [terms, numbered.eq_entries ((orders.byColumn_perm _).trans (orders.listed_perm _)) (orders.byColumn_ordered _),
    numbered.terms_eq]
  rfl

end Orders

-- Below `2 ^ 53` documents, the comparisons of doubles are comparisons of the numbers that they stand for.
theorem inBounds_iff {least most : ℚ} (few : documents.length < 2 ^ 53)
    (leastNumber : rational? (bounds.least.resolve documents.length) = some least)
    (mostNumber : rational? (bounds.most.resolve documents.length) = some most) :
    InBounds documents bounds term ↔ (∃ document ∈ documents, term ∈ document) ∧
      least ≤ documentCount documents term ∧ documentCount documents term ≤ most := by
  have count : rational? (Float.ofNat (documentCount documents term)) = some (documentCount documents term : ℚ) :=
    rational?_ofNat (Nat.lt_of_le_of_lt List.countP_le_length few)
  rw [← le_iff_rational leastNumber count, ← le_iff_rational count mostNumber]
  exact ⟨fun ⟨occurs, enough, notTooMany⟩ => ⟨occurs, enough, notTooMany⟩,
    fun ⟨occurs, enough, notTooMany⟩ => ⟨occurs, enough, notTooMany⟩⟩

-- What is built is the one outcome that counting allows, in whatever order the tables are gone through.
theorem build_iff_outcome (documents : List (List String)) (bounds : VocabularyBounds) :
    (∀ result, build documents bounds = result ↔ Outcome documents bounds result) ∧
    (∀ orders : Orders, orders.build documents bounds = build documents bounds ∧
      ∀ vocabulary, build documents bounds = .ok vocabulary → orders.terms vocabulary = vocabulary.terms) ∧
    (documents.length < 2 ^ 53 → ∀ least most : ℚ,
      rational? (bounds.least.resolve documents.length) = some least →
      rational? (bounds.most.resolve documents.length) = some most →
      (bounds.most.resolve documents.length < bounds.least.resolve documents.length ↔ most < least) ∧
      ∀ term, InBounds documents bounds term ↔ (∃ document ∈ documents, term ∈ document) ∧
        least ≤ documentCount documents term ∧ documentCount documents term ≤ most) := by
  refine ⟨fun result => ⟨?_, outcome_build.unique⟩, fun orders => ⟨orders.build_eq, ?_⟩, ?_⟩
  · rintro rfl
    exact outcome_build
  · exact fun vocabulary built => orders.terms_eq (numbered_build built)
  · exact fun few least most leastNumber mostNumber =>
      ⟨lt_iff_rational mostNumber leastNumber, fun term => inBounds_iff few leastNumber mostNumber⟩

def Orders.reversed : Orders where
  listed := List.reverse
  byRank := sortBy ranksBefore
  byTerm := sortBy fun a b => decide (a.1 ≤ b.1)
  byColumn := sortBy fun a b => decide (a.2 ≤ b.2)
  listed_perm := List.reverse_perm
  byRank_perm _ := sortBy_perm
  byTerm_perm _ := sortBy_perm
  byColumn_perm _ := sortBy_perm
  byRank_ordered _ := sortBy_ordered ranksBefore_total ranksBefore_trans
  byTerm_ordered _ := sortBy_key_ordered Prod.fst
  byColumn_ordered _ := sortBy_key_ordered Prod.snd

def letters : List (List String) := [["b", "a", "b"], ["a", "c"]]

def twoTerms : VocabularyBounds := { VocabularyBounds.default with limit := some 2 }

theorem letters_outcome : Outcome letters twoTerms (.ok (ofTerms ["a", "b"])) ∧
    Orders.reversed.build letters twoTerms = .ok (ofTerms ["a", "b"]) ∧
    Orders.reversed.terms (ofTerms ["a", "b"]) = ["a", "b"] ∧ InBounds letters twoTerms "c" := by
  obtain ⟨outcome, orders, numbers⟩ := build_iff_outcome letters twoTerms
  have built : build letters twoTerms = .ok (ofTerms ["a", "b"]) := rfl
  have few : letters.length < 2 ^ 53 := by decide
  have one : rational? (twoTerms.least.resolve letters.length) = some ((1 : Nat) : ℚ) := rational?_ofNat (by decide)
  have all : rational? (twoTerms.most.resolve letters.length) = some ((2 : Nat) : ℚ) := by
    have whole : twoTerms.most.resolve letters.length = Float.ofNat 2 := by decide +kernel
    rw [whole]
    exact rational?_ofNat (by decide)
  obtain ⟨_, within⟩ := numbers few _ _ one all
  have count : documentCount letters "c" = 1 := rfl
  refine ⟨(outcome _).mp built, (orders .reversed).1.trans built, (orders .reversed).2 _ built, (within "c").mpr ?_⟩
  rw [count]
  exact ⟨⟨["a", "c"], by decide, by decide⟩, by norm_num, by norm_num⟩

end TextFeatures.Vocabulary
