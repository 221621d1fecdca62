namespace TextFeatures

class OrderedKey (κ : Type) [LT κ] : Prop where
  lt_trans : ∀ {a b c : κ}, a < b → b < c → a < c

instance : OrderedKey String := ⟨String.lt_trans⟩
instance : OrderedKey Nat := ⟨Nat.lt_trans⟩

structure Dictionary (κ α : Type) [LT κ] where
  entries : List (κ × α)
  ordered : entries.Pairwise fun a b => a.1 < b.1

namespace Dictionary

variable {κ α : Type} [LT κ]

def empty : Dictionary κ α := ⟨[], .nil⟩

instance : EmptyCollection (Dictionary κ α) := ⟨empty⟩
instance : Inhabited (Dictionary κ α) := ⟨empty⟩

theorem ext {a b : Dictionary κ α} (same : a.entries = b.entries) : a = b := by
  cases a; cases b; cases same; rfl

instance [DecidableEq κ] [DecidableEq α] : DecidableEq (Dictionary κ α) := fun a b =>
  if same : a.entries = b.entries then isTrue (ext same)
  else isFalse fun eq => same (eq ▸ rfl)

def alterEntries [DecidableLT κ] (key : κ) (change : Option α → α) : List (κ × α) → List (κ × α)
  | [] => [(key, change none)]
  | (other, value) :: rest =>
    if key < other then (key, change none) :: (other, value) :: rest
    else if other < key then (other, value) :: alterEntries key change rest
    else (other, change (some value)) :: rest

theorem mem_alterEntries [DecidableLT κ] {key : κ} {change : Option α → α}
    {entries : List (κ × α)} {entry : κ × α} (member : entry ∈ alterEntries key change entries) :
    entry.1 = key ∨ ∃ old ∈ entries, old.1 = entry.1 := by
  induction entries with
  | nil => simp [alterEntries] at member; simp [member]
  | cons head rest ih =>
    obtain ⟨other, value⟩ := head
    simp only [alterEntries] at member
    split at member
    · rcases List.mem_cons.mp member with rfl | old
      · exact .inl rfl
      · exact .inr ⟨entry, old, rfl⟩
    · split at member
      · rcases List.mem_cons.mp member with rfl | deep
        · exact .inr ⟨_, List.mem_cons_self, rfl⟩
        · rcases ih deep with same | ⟨old, there, same⟩
          · exact .inl same
          · exact .inr ⟨old, List.mem_cons_of_mem _ there, same⟩
      · rcases List.mem_cons.mp member with rfl | old
        · exact .inr ⟨_, List.mem_cons_self, rfl⟩
        · exact .inr ⟨entry, List.mem_cons_of_mem _ old, rfl⟩

variable [DecidableLT κ] [OrderedKey κ]

theorem ordered_alterEntries (key : κ) (change : Option α → α) (entries : List (κ × α))
    (ordered : entries.Pairwise fun a b => a.1 < b.1) :
    (alterEntries key change entries).Pairwise fun a b => a.1 < b.1 := by
  induction entries with
  | nil => simp [alterEntries]
  | cons head rest ih =>
    obtain ⟨other, value⟩ := head
    obtain ⟨above, tail⟩ := List.pairwise_cons.mp ordered
    simp only [alterEntries]
    split
    · rename_i before
      refine List.pairwise_cons.mpr ⟨?_, ordered⟩
      intro entry member
      rcases List.mem_cons.mp member with rfl | old
      · exact before
      · exact OrderedKey.lt_trans before (above _ old)
    · split
      · rename_i after
        refine List.pairwise_cons.mpr ⟨?_, ih tail⟩
        intro entry member
        rcases mem_alterEntries member with same | ⟨old, there, same⟩
        · exact same ▸ after
        · exact same ▸ above old there
      · exact List.pairwise_cons.mpr ⟨above, tail⟩

def alter (key : κ) (change : Option α → α) (d : Dictionary κ α) : Dictionary κ α :=
  ⟨alterEntries key change d.entries, ordered_alterEntries key change d.entries d.ordered⟩

def insert (key : κ) (value : α) (d : Dictionary κ α) : Dictionary κ α :=
  d.alter key fun _ => value

-- Of several values under one key the last one stays.
def ofList (entries : List (κ × α)) : Dictionary κ α :=
  entries.foldl (fun d entry => d.insert entry.1 entry.2) empty

def tally (keys : List κ) : Dictionary κ Nat :=
  keys.foldl (fun d key => d.alter key fun count => count.getD 0 + 1) empty

omit [DecidableLT κ] [OrderedKey κ]

def erase [DecidableEq κ] (key : κ) (d : Dictionary κ α) : Dictionary κ α :=
  ⟨d.entries.filter fun entry => entry.1 ≠ key, d.ordered.filter _⟩

def get? [DecidableEq κ] (d : Dictionary κ α) (key : κ) : Option α := d.entries.lookup key

def contains [DecidableEq κ] (d : Dictionary κ α) (key : κ) : Bool := (d.get? key).isSome

def size (d : Dictionary κ α) : Nat := d.entries.length

def keys (d : Dictionary κ α) : List κ := d.entries.map Prod.fst

end Dictionary

def sortedDistinct (words : List String) : List String :=
  (Dictionary.ofList (words.map (·, ()))).keys

end TextFeatures
