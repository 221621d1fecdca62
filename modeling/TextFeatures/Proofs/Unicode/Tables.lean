import TextFeatures.Proofs.Unicode.Rows

namespace TextFeatures.Unicode

variable {α β : Type} {first last stop code : Nat} {value : α} {wanted : α → Bool} {table more : Table α} {seen : List (Row α)}
  {others : List (Table α)} {P : Table α → Prop} {set : β → Nat} {members : List β} {chars : List Char}

theorem Table.exists_entry_of_find? (found : table.find? code = some value) :
    ∃ row ∈ table, ∃ entry ∈ row.entries, (entry.first ≤ code ∧ code ≤ entry.last) ∧ entry.value = value := by
  unfold Table.find? at found
  split at found
  · cases found
  · rename_i row there
    obtain ⟨entry, listed, rfl⟩ := Option.map_eq_some_iff.mp found
    have covers := List.find?_some listed
    simp only [Bool.and_eq_true, decide_eq_true_eq] at covers
    exact ⟨row, List.mem_of_find?_eq_some there, entry, List.mem_of_find?_eq_some listed, covers, rfl⟩

section Reading

-- Rows as they are once their texts have been taken apart into characters, which is what takes long.

noncomputable def scannedRow (read : List Char → α) (first last : Nat) (chars : List Char) : Row α :=
  ⟨first, last, scan (fun rest => read (rest.takeWhile (· ≠ ' '))) chars (.start 0)⟩

noncomputable def scannedMapping (first last : Nat) (chars : List Char) : Row (List Char) :=
  ⟨first, last, scan (fun rest => (scanCodes rest 0).map Char.ofNat) chars (.start 0)⟩

-- What is to be shown of several tables in a row: some rows have been taken apart, and the others are as they are
-- written.
def Reading (P : Table α → Prop) (seen : List (Row α)) (others : List (Table α)) : Prop :=
  P (seen.reverse ++ others.flatten)

theorem Reading.start (parts : others.flatten = table) (reading : Reading P [] others) : P table := by
  rwa [Reading, parts] at reading

theorem Reading.known {row known : Row α} (same : row = known) (later : Reading P (known :: seen) (more :: others)) :
    Reading P seen ((row :: more) :: others) := by
  rwa [Reading, List.reverse_cons, List.append_assoc, List.flatten_cons, List.singleton_append, ← same] at later

theorem Reading.row {read : List Char → α}
    (later : Reading P (scannedRow read first last chars :: seen) (more :: others)) :
    Reading P seen ((Unicode.row read first last (String.ofList chars) :: more) :: others) :=
  .known (row_eq_scan fun _ => rfl) later

theorem Reading.mapping {P : Table (List Char) → Prop} {seen more : Table (List Char)}
    {others : List (Table (List Char))} (later : Reading P (scannedMapping first last chars :: seen) (more :: others)) :
    Reading P seen ((mappingRow first last (String.ofList chars) :: more) :: others) :=
  .known mappingRow_eq_scan later

theorem Reading.next (later : Reading P seen others) : Reading P seen ([] :: others) := later

theorem Reading.done (holds : P seen.reverse) : Reading P seen [] := by
  rwa [Reading, List.flatten_nil, List.append_nil]

end Reading

section Bits

-- Sets of code points are the bits of numbers. What is claimed of whole tables is computed with such numbers, for to
-- look up one code point after the other would go through all rows each time.
def spanBits (first stop : Nat) : Nat := (1 <<< (stop - first) - 1) <<< first

noncomputable def joinBits (set : β → Nat) (members : List β) : Nat :=
  foldRest (fun member _ joined => set member ||| joined) 0 members

theorem testBit_spanBits : (spanBits first stop).testBit code = true ↔ first ≤ code ∧ code < stop := by
  simp only [spanBits, Nat.one_shiftLeft, Nat.testBit_shiftLeft, Nat.testBit_two_pow_sub_one, Bool.and_eq_true,
    decide_eq_true_eq]
  omega

theorem testBit_joinBits :
    (joinBits set members).testBit code = true ↔ ∃ member ∈ members, (set member).testBit code = true := by
  induction members with
  | nil => simp [joinBits, foldRest]
  | cons member others ih =>
    have step : joinBits set (member :: others) = set member ||| joinBits set others := rfl
    simp only [step, Nat.testBit_or, Bool.or_eq_true, ih, List.mem_cons, exists_eq_or_imp]

theorem not_testBit_of_apart {codes others : Nat} (apart : codes &&& others = 0) (here : codes.testBit code = true) :
    others.testBit code = false := by
  have neither : (codes &&& others).testBit code = false := by rw [apart, Nat.zero_testBit]
  rwa [Nat.testBit_and, here, Bool.true_and] at neither

noncomputable def charBits (chars : List Char) : Nat := joinBits (fun c => 1 <<< c.toNat) chars

theorem testBit_charBits {c : Char} (member : c ∈ chars) : (charBits chars).testBit c.toNat = true := by
  refine testBit_joinBits.mpr ⟨c, member, ?_⟩
  rw [Nat.one_shiftLeft, Nat.testBit_two_pow_self]

noncomputable def Row.bitsWhere (wanted : α → Bool) (row : Row α) : Nat :=
  joinBits (fun entry => bif wanted entry.value then spanBits entry.first (entry.last + 1) else 0) row.entries

theorem Row.testBit_bitsWhere {row : Row α} : (row.bitsWhere wanted).testBit code = true ↔
    ∃ entry ∈ row.entries, wanted entry.value = true ∧ entry.first ≤ code ∧ code ≤ entry.last := by
  rw [bitsWhere, testBit_joinBits]
  refine exists_congr fun entry => and_congr_right fun _ => ?_
  cases wanted entry.value with
  | false => simp
  | true => rw [cond_true, testBit_spanBits, Nat.lt_succ_iff, eq_self, true_and]

def Row.bounds (row : Row α) : Nat := spanBits row.first (row.last + 1)

theorem Row.testBit_bounds {row : Row α} :
    row.bounds.testBit code = true ↔ row.first ≤ code ∧ code ≤ row.last := by
  rw [bounds, testBit_spanBits, Nat.lt_succ_iff]

noncomputable def Table.bitsWhere (wanted : α → Bool) (table : Table α) : Nat := joinBits (Row.bitsWhere wanted) table

noncomputable def Table.bits (table : Table α) : Nat := table.bitsWhere fun _ => true

noncomputable def Table.valueBits (table : Table (List Char)) : Nat :=
  joinBits (fun row => joinBits (fun entry => charBits entry.value) row.entries) table

-- Those of some code points that a table need not have a value for: they are out of the bounds of all rows, or a row
-- has them in its bounds and no entry for them.
noncomputable def Table.missing (table : Table α) (codes : Nat) : Nat :=
  let bounds := joinBits Row.bounds table
  let holes := joinBits (fun row => row.bounds ^^^ (row.bounds &&& row.bitsWhere fun _ => true)) table
  (codes ^^^ (codes &&& bounds)) ||| (codes &&& holes)

theorem testBit_bitsWhere (found : table.find? code = some value) (fits : wanted value = true) :
    (table.bitsWhere wanted).testBit code = true := by
  obtain ⟨row, among, entry, listed, covers, rfl⟩ := Table.exists_entry_of_find? found
  exact testBit_joinBits.mpr ⟨row, among, Row.testBit_bitsWhere.mpr ⟨entry, listed, fits, covers⟩⟩

theorem unwanted_of_bits (clear : (table.bitsWhere wanted).testBit code = false)
    (found : table.find? code = some value) : wanted value = false := by
  rw [Bool.eq_false_iff]
  exact fun fits => Bool.false_ne_true (clear.symm.trans (testBit_bitsWhere found fits))

theorem testBit_bits (found : table.find? code = some value) : table.bits.testBit code = true :=
  testBit_bitsWhere found rfl

theorem find?_eq_none_of_bits (clear : table.bits.testBit code = false) : table.find? code = none := by
  cases found : table.find? code with
  | none => rfl
  | some value => exact absurd (unwanted_of_bits clear found).symm Bool.false_ne_true

theorem testBit_valueBits {table : Table (List Char)} {value : List Char} {c : Char}
    (found : table.find? code = some value) (member : c ∈ value) : table.valueBits.testBit c.toNat = true := by
  obtain ⟨row, among, entry, listed, _, rfl⟩ := Table.exists_entry_of_find? found
  refine testBit_joinBits.mpr ⟨row, among, ?_⟩
  exact testBit_joinBits.mpr ⟨entry, listed, testBit_charBits member⟩

theorem testBit_missing {codes : Nat} (absent : table.find? code = none) (asked : codes.testBit code = true) :
    (table.missing codes).testBit code = true := by
  unfold Table.find? at absent
  simp only [Table.missing, Nat.testBit_or, Nat.testBit_xor, Nat.testBit_and, asked, Bool.true_and, Bool.or_eq_true]
  split at absent
  · rename_i nowhere
    have outside : (joinBits Row.bounds table).testBit code = false := by
      rw [Bool.eq_false_iff]
      intro inside
      obtain ⟨row, among, covers⟩ := testBit_joinBits.mp inside
      exact List.find?_eq_none.mp nowhere row among (by simpa using Row.testBit_bounds.mp covers)
    exact .inl (by rw [outside]; rfl)
  · rename_i row there
    refine .inr (testBit_joinBits.mpr ⟨row, List.mem_of_find?_eq_some there, ?_⟩)
    have bounded : row.first ≤ code ∧ code ≤ row.last := by simpa using List.find?_some there
    have unlisted : (row.bitsWhere fun _ => true).testBit code = false := by
      rw [Bool.eq_false_iff]
      intro listed
      obtain ⟨entry, among, _, covers⟩ := Row.testBit_bitsWhere.mp listed
      exact List.find?_eq_none.mp (Option.map_eq_none_iff.mp absent) entry among (by simpa using covers)
    rw [Nat.testBit_xor, Nat.testBit_and, Row.testBit_bounds.mpr bounded, unlisted]
    rfl

end Bits

end TextFeatures.Unicode
