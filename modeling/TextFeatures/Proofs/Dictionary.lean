import Mathlib.Algebra.GroupWithZero.Nat
import Mathlib.Tactic.Tauto
import TextFeatures.Dictionary

namespace TextFeatures

class LinearKey (κ : Type) [LT κ] : Prop extends OrderedKey κ where
  lt_irrefl : ∀ a : κ, ¬a < a
  eq_of_not_lt : ∀ {a b : κ}, ¬a < b → ¬b < a → a = b

instance : LinearKey String where
  lt_irrefl := String.lt_irrefl
  eq_of_not_lt notBefore notAfter :=
    String.le_antisymm (String.not_lt.mp notAfter) (String.not_lt.mp notBefore)

instance : LinearKey Nat where
  lt_irrefl := Nat.lt_irrefl
  eq_of_not_lt notBefore notAfter := by omega

namespace Dictionary

variable {κ α : Type} [LT κ] [LinearKey κ] {key other : κ} {change : Option α → α} {value : α}
  {entries : List (κ × α)}

theorem not_lt_of_lt (before : key < other) : ¬other < key :=
  fun after => LinearKey.lt_irrefl key (OrderedKey.lt_trans before after)

section Lookup
variable [DecidableEq κ]

omit [LT κ] [LinearKey κ] in
theorem lookup_cons_eq :
    ((key, value) :: entries).lookup other = if other = key then some value else entries.lookup other := by
  rw [List.lookup_cons]
  by_cases same : other = key
  · simp [same]
  · rw [beq_eq_false_iff_ne.mpr same, if_neg same]

theorem lookup_eq_none_of_lt (above : ∀ entry ∈ entries, key < entry.1) : entries.lookup key = none := by
  refine List.lookup_eq_none_iff.mpr fun entry member => ?_
  have different : key ≠ entry.1 := fun same => LinearKey.lt_irrefl key (same ▸ above entry member)
  simpa using different

variable [DecidableLT κ]

theorem lookup_alterEntries (ordered : entries.Pairwise fun a b => a.1 < b.1) :
    (alterEntries key change entries).lookup other =
      if other = key then some (change (entries.lookup key)) else entries.lookup other := by
  induction entries with
  | nil => simp [alterEntries, lookup_cons_eq]
  | cons head rest ih =>
    obtain ⟨first, value⟩ := head
    obtain ⟨above, tail⟩ := List.pairwise_cons.mp ordered
    simp only [alterEntries]
    split
    · rename_i before
      have absent : ((first, value) :: rest).lookup key = none := by
        refine lookup_eq_none_of_lt fun entry member => ?_
        rcases List.mem_cons.mp member with rfl | later
        · exact before
        · exact OrderedKey.lt_trans before (above entry later)
      rw [absent, lookup_cons_eq]
    · split
      · rename_i after
        have different : key ≠ first := fun same => LinearKey.lt_irrefl first (same ▸ after)
        rw [lookup_cons_eq, lookup_cons_eq, lookup_cons_eq, ih tail, if_neg different]
        by_cases atFirst : other = first
        · simp [atFirst, Ne.symm different]
        · simp [atFirst]
      · rename_i notBefore notAfter
        obtain rfl := LinearKey.eq_of_not_lt notBefore notAfter
        simp only [lookup_cons_eq]
        by_cases same : other = key <;> simp [same]

variable {d : Dictionary κ α}

theorem get?_alter : (d.alter key change).get? other =
    if other = key then some (change (d.get? key)) else d.get? other :=
  lookup_alterEntries d.ordered

@[simp] theorem get?_insert :
    (d.insert key value).get? other = if other = key then some value else d.get? other :=
  get?_alter

omit [DecidableLT κ] in
theorem lookup_eq_some_iff (ordered : entries.Pairwise fun a b => a.1 < b.1) :
    entries.lookup key = some value ↔ (key, value) ∈ entries := by
  induction entries with
  | nil => simp
  | cons head rest ih =>
    obtain ⟨first, held⟩ := head
    obtain ⟨above, tail⟩ := List.pairwise_cons.mp ordered
    rw [lookup_cons_eq, List.mem_cons, Prod.mk.injEq]
    by_cases same : key = first
    · subst same
      have absent : (key, value) ∉ rest :=
        fun later => LinearKey.lt_irrefl key (above _ later)
      simp [absent, eq_comm]
    · simp [same, ih tail]

omit [DecidableLT κ] in
theorem get?_eq_some_iff : d.get? key = some value ↔ (key, value) ∈ d.entries :=
  lookup_eq_some_iff d.ordered

omit [LinearKey κ] [DecidableLT κ] in
theorem get?_erase : (d.erase key).get? other = if other = key then none else d.get? other := by
  obtain ⟨entries, ordered⟩ := d
  unfold erase get?
  dsimp only
  clear ordered
  induction entries with
  | nil => simp
  | cons entry rest ih =>
    obtain ⟨first, value⟩ := entry
    by_cases gone : first = key
    · subst gone
      rw [List.filter_cons_of_neg (by simp), ih, lookup_cons_eq]
      split <;> rfl
    · rw [List.filter_cons_of_pos (by simpa using gone), lookup_cons_eq, lookup_cons_eq, ih]
      by_cases here : other = first
      · subst here
        simp [gone]
      · simp [here]

omit [DecidableLT κ] in
theorem contains_iff_mem_keys : d.contains key = true ↔ key ∈ d.keys := by
  rw [contains, Option.isSome_iff_exists, keys, List.mem_map]
  constructor
  · rintro ⟨value, found⟩
    exact ⟨(key, value), get?_eq_some_iff.mp found, rfl⟩
  · rintro ⟨⟨_, value⟩, member, rfl⟩
    exact ⟨value, get?_eq_some_iff.mpr member⟩

theorem contains_insert :
    (d.insert key value).contains other = true ↔ other = key ∨ d.contains other = true := by
  rw [contains, contains, get?_insert]
  by_cases same : other = key <;> simp [same]

theorem contains_foldl_insert :
    (entries.foldl (fun d entry => d.insert entry.1 entry.2) d).contains key = true ↔
      key ∈ entries.map Prod.fst ∨ d.contains key = true := by
  induction entries generalizing d with
  | nil => simp
  | cons entry rest ih =>
    rw [List.foldl_cons, ih, contains_insert, List.map_cons, List.mem_cons]
    tauto

theorem mem_keys_ofList : key ∈ (ofList entries).keys ↔ key ∈ entries.map Prod.fst := by
  rw [← contains_iff_mem_keys, ofList, contains_foldl_insert]
  simp [contains, get?, empty]

end Lookup

variable [DecidableLT κ] {d : Dictionary κ α}

theorem alterEntries_of_lt (below : ∀ entry ∈ entries, entry.1 < key) :
    alterEntries key change entries = entries ++ [(key, change none)] := by
  induction entries with
  | nil => rfl
  | cons head rest ih =>
    have before := below head List.mem_cons_self
    rw [alterEntries, if_neg (not_lt_of_lt before), if_pos before,
      ih fun entry member => below entry (List.mem_cons_of_mem _ member)]
    rfl

theorem entries_foldl_insert (ordered : (d.entries ++ entries).Pairwise fun a b => a.1 < b.1) :
    (entries.foldl (fun d entry => d.insert entry.1 entry.2) d).entries = d.entries ++ entries := by
  induction entries generalizing d with
  | nil => simp
  | cons entry rest ih =>
    have below : ∀ old ∈ d.entries, old.1 < entry.1 :=
      fun old member => (List.pairwise_append.mp ordered).2.2 old member entry List.mem_cons_self
    have inserted : (d.insert entry.1 entry.2).entries = d.entries ++ [entry] := alterEntries_of_lt below
    rw [List.foldl_cons, ih (by simpa [inserted] using ordered), inserted, List.append_assoc]
    rfl

theorem entries_ofList (ordered : entries.Pairwise fun a b => a.1 < b.1) :
    (ofList entries).entries = entries := by
  have together : ((empty : Dictionary κ α).entries ++ entries).Pairwise fun a b => a.1 < b.1 := ordered
  exact entries_foldl_insert together

section Order
variable [DecidableEq κ]

theorem get?_foldl_insert (apart : entries.Pairwise fun a b => a.1 ≠ b.1) :
    (entries.foldl (fun d entry => d.insert entry.1 entry.2) d).get? key = some value ↔
      (key, value) ∈ entries ∨ key ∉ entries.map Prod.fst ∧ d.get? key = some value := by
  induction entries generalizing d with
  | nil => simp
  | cons entry rest ih =>
    obtain ⟨first, held⟩ := entry
    obtain ⟨different, later⟩ := List.pairwise_cons.mp apart
    rw [List.foldl_cons, ih later, get?_insert, List.mem_cons, List.map_cons, List.mem_cons, Prod.mk.injEq]
    by_cases same : key = first
    · subst same
      have absent : key ∉ rest.map Prod.fst := by
        intro among
        obtain ⟨other, member, alike⟩ := List.mem_map.mp among
        exact different other member alike.symm
      have unlisted : (key, value) ∉ rest := fun member => absent (List.mem_map_of_mem member)
      simp [absent, unlisted, eq_comm]
    · simp [same]

theorem get?_ofList (apart : entries.Pairwise fun a b => a.1 ≠ b.1) :
    (ofList entries).get? key = some value ↔ (key, value) ∈ entries := by
  rw [ofList, get?_foldl_insert apart]
  simp [get?, empty]

omit [DecidableEq κ] [DecidableLT κ]

theorem ne_of_ordered (ordered : entries.Pairwise fun a b => a.1 < b.1) :
    entries.Pairwise fun a b => a.1 ≠ b.1 := by
  refine ordered.imp ?_
  intro a b before same
  exact LinearKey.lt_irrefl b.1 (same ▸ before)

theorem nodup_entries (d : Dictionary κ α) : d.entries.Nodup :=
  (ne_of_ordered d.ordered).imp fun different alike => different (congrArg Prod.fst alike)

theorem eq_of_mem_iff {a b : Dictionary κ α} (same : ∀ entry, entry ∈ a.entries ↔ entry ∈ b.entries) : a = b := by
  have shuffled := (List.perm_ext_iff_of_nodup a.nodup_entries b.nodup_entries).mpr same
  refine ext (shuffled.eq_of_pairwise ?_ a.ordered b.ordered)
  exact fun x y _ _ before after => absurd after (not_lt_of_lt before)

variable [DecidableEq κ] [DecidableLT κ]

theorem ofList_of_perm (shuffled : entries.Perm d.entries) : ofList entries = d := by
  have apart : entries.Pairwise fun a b => a.1 ≠ b.1 := (ne_of_ordered d.ordered).perm shuffled.symm Ne.symm
  refine eq_of_mem_iff fun entry => ?_
  rw [← shuffled.mem_iff, ← get?_ofList apart]
  exact get?_eq_some_iff.symm

end Order

section Counting
variable [DecidableEq κ] {keys others : List κ} {counts : Dictionary κ Nat}

omit [DecidableLT κ] in
theorem eq_of_get? {a b : Dictionary κ α} (same : ∀ key, a.get? key = b.get? key) : a = b := by
  refine eq_of_mem_iff fun entry => ?_
  rw [← get?_eq_some_iff, ← get?_eq_some_iff, same]

theorem get?_foldl_count :
    (keys.foldl (fun d key => d.alter key fun count => count.getD 0 + 1) counts).get? key =
      if key ∈ keys then some ((counts.get? key).getD 0 + keys.count key) else counts.get? key := by
  induction keys generalizing counts with
  | nil => simp
  | cons first rest ih =>
    rw [List.foldl_cons, ih, get?_alter]
    by_cases here : key = first
    · subst here
      by_cases later : key ∈ rest
      · simp [later]
        omega
      · simp [later, List.count_eq_zero_of_not_mem later]
    · have different : first ≠ key := fun same => here same.symm
      simp [here, different]

theorem get?_tally : (tally keys).get? key = if key ∈ keys then some (keys.count key) else none := by
  rw [tally, get?_foldl_count]
  simp [get?, empty]

theorem getD_tally : ((tally keys).get? key).getD 0 = keys.count key := by
  rw [get?_tally]
  split
  · rfl
  · rename_i absent
    exact (List.count_eq_zero_of_not_mem absent).symm

theorem tally_perm (shuffled : keys.Perm others) : tally keys = tally others := by
  refine eq_of_get? fun key => ?_
  simp only [get?_tally, shuffled.mem_iff, shuffled.count_eq]

theorem of_mem_tally {entry : κ × Nat} (member : entry ∈ (tally keys).entries) :
    entry.1 ∈ keys ∧ entry.2 = keys.count entry.1 := by
  have counted : (tally keys).get? entry.1 = some entry.2 := get?_eq_some_iff.mpr member
  rw [get?_tally] at counted
  split at counted
  · rename_i there
    exact ⟨there, (Option.some.inj counted).symm⟩
  · cases counted

theorem mem_of_mem_tally {entry : κ × Nat} (member : entry ∈ (tally keys).entries) : entry.1 ∈ keys :=
  (of_mem_tally member).1

omit [LinearKey κ] [DecidableEq κ] in
theorem sum_alterEntries {entries : List (κ × Nat)} :
    ((alterEntries key (fun count => count.getD 0 + 1) entries).map Prod.snd).sum = (entries.map Prod.snd).sum + 1 := by
  induction entries with
  | nil => rfl
  | cons entry rest ih =>
    unfold alterEntries
    split
    · simp only [List.map_cons, List.sum_cons, Option.getD_none]
      omega
    · split <;> simp only [List.map_cons, List.sum_cons, ih, Option.getD_some] <;> omega

omit [DecidableEq κ] in
theorem sum_tally : ((tally keys).entries.map Prod.snd).sum = keys.length := by
  have counted (counts : Dictionary κ Nat) : ((keys.foldl (fun d key => d.alter key fun count => count.getD 0 + 1)
      counts).entries.map Prod.snd).sum = (counts.entries.map Prod.snd).sum + keys.length := by
    induction keys generalizing counts with
    | nil => rfl
    | cons key rest ih =>
      have once : ((counts.alter key fun count => count.getD 0 + 1).entries.map Prod.snd).sum = _ := sum_alterEntries
      rw [List.foldl_cons, ih, once, List.length_cons]
      omega
  rw [tally, counted]
  exact Nat.zero_add _

end Counting

end Dictionary

theorem mem_sortedDistinct {words : List String} {word : String} :
    word ∈ sortedDistinct words ↔ word ∈ words := by
  rw [sortedDistinct, Dictionary.mem_keys_ofList]
  simp

theorem sortedDistinct_ordered (words : List String) : (sortedDistinct words).Pairwise (· < ·) :=
  List.pairwise_map.mpr (Dictionary.ofList (words.map (·, ()))).ordered

-- A list in strictly increasing order is known by its members, and the place of a member is the number of smaller ones.
section Increasing
variable {words others : List String} {word : String} {i : Nat}

theorem nodup_of_increasing (increasing : words.Pairwise (· < ·)) : words.Nodup := by
  refine increasing.imp ?_
  rintro a _ before rfl
  exact String.lt_irrefl a before

theorem eq_of_increasing (increasing : words.Pairwise (· < ·)) (increasingToo : others.Pairwise (· < ·))
    (same : ∀ word, word ∈ words ↔ word ∈ others) : words = others := by
  have shuffled : words.Perm others :=
    (List.perm_ext_iff_of_nodup (nodup_of_increasing increasing) (nodup_of_increasing increasingToo)).mpr same
  exact shuffled.eq_of_pairwise (fun a b _ _ before after => absurd after (String.lt_asymm before)) increasing
    increasingToo

theorem countP_eq_of_increasing (increasing : words.Pairwise (· < ·)) (there : words[i]? = some word) :
    words.countP (· < word) = i := by
  induction words generalizing i with
  | nil => cases there
  | cons first rest ih =>
    obtain ⟨above, later⟩ := List.pairwise_cons.mp increasing
    cases i with
    | zero =>
      obtain rfl : first = word := by simpa using there
      refine List.countP_eq_zero.mpr fun other among => ?_
      rcases List.mem_cons.mp among with rfl | behind
      · simp
      · simpa using String.lt_asymm (above other behind)
    | succ i =>
      have found : rest[i]? = some word := by simpa using there
      have smaller : first < word := above word (List.mem_of_getElem? found)
      rw [List.countP_cons_of_pos (by simpa using smaller), ih later found]

end Increasing

theorem count_sortedDistinct {words : List String} {word : String} :
    (sortedDistinct words).count word = if word ∈ words then 1 else 0 := by
  rw [(nodup_of_increasing (sortedDistinct_ordered words)).count]
  simp only [mem_sortedDistinct]

-- A word that is taken once from every list counts the lists that it is in.
theorem count_flatMap_sortedDistinct {lists : List (List String)} {word : String} :
    (lists.flatMap sortedDistinct).count word = lists.countP (word ∈ ·) := by
  induction lists with
  | nil => rfl
  | cons words rest ih =>
    rw [List.flatMap_cons, List.count_append, ih, count_sortedDistinct, List.countP_cons, Nat.add_comm]
    simp only [decide_eq_true_eq]

theorem sortedDistinct_of_ordered {words : List String} (ordered : words.Pairwise (· < ·)) :
    sortedDistinct words = words := by
  have inOrder : (words.map (·, ())).Pairwise fun a b => a.1 < b.1 := List.pairwise_map.mpr ordered
  rw [sortedDistinct, Dictionary.keys, Dictionary.entries_ofList inOrder, List.map_map]
  exact List.map_id words

end TextFeatures
