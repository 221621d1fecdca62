import TextFeatures.Proofs.Json.Numerals

namespace TextFeatures.Json

variable {fuel : Nat} {c : Char} {cs rest : List Char} {value item : Json} {items : List Json}
  {members : List (Option String × Json)}

-- Strings are read character by character as they are written.
section Strings

theorem unit?_hexDigits {n : Nat} (control : n < 0x20) :
    unit? '0' '0' (hexDigit (n / 16)) (hexDigit (n % 16)) = some n := by
  have all : ∀ n < 0x20, unit? '0' '0' (hexDigit (n / 16)) (hexDigit (n % 16)) = some n := by decide
  exact all n control

theorem readUnits_writeChar (c : Char) :
    readUnits (writeChar c ++ rest) = (readUnits rest).map fun read => (c.toNat :: read.1, read.2) := by
  unfold writeChar
  split
  · rfl
  · rfl
  · rfl
  · rfl
  · rfl
  · rfl
  · rfl
  · rename_i quote backslash _ _ _ _ _
    split
    · rename_i control
      simp only [List.cons_append, List.nil_append, readUnits, unit?_hexDigits control]
    · rename_i printable
      rw [List.cons_append, List.nil_append, readUnits]
      · exact if_neg printable
      · exact quote
      · rintro a b c d rest ⟨⟩ _
        exact backslash rfl
      · rintro d rest ⟨⟩ _
        exact backslash rfl

theorem joinUnits_map (cs : List Char) : joinUnits (cs.map Char.toNat) = some cs := by
  induction cs with
  | nil => rfl
  | cons c rest ih =>
    -- a character is never one half of a pair
    have valid : c.toNat < 0xd800 ∨ 0xdfff < c.toNat ∧ c.toNat < 0x110000 := c.valid
    have high : isHighHalf c.toNat = false := by
      simp [isHighHalf]
      omega
    have low : isLowHalf c.toNat = false := by
      simp [isLowHalf]
      omega
    rw [List.map_cons, joinUnits.eq_def]
    simp [high, low, ih, Char.ofNat_toNat]

theorem readUnits_writeText (cs : List Char) :
    readUnits (cs.flatMap writeChar ++ '"' :: rest) = some (cs.map Char.toNat, rest) := by
  induction cs with
  | nil => rfl
  | cons c more ih =>
    rw [List.flatMap_cons, List.append_assoc, readUnits_writeChar, ih]
    rfl

theorem readString_writeText (text : String) :
    readString (text.toList.flatMap writeChar ++ '"' :: rest) = some (some text, rest) := by
  rw [readString, readUnits_writeText, Option.map_some, joinUnits_map, Option.map_some, String.ofList_toList]

end Strings

-- A value that a text can hold: its numbers are spelled as numbers, and its strings stand for texts.
inductive WellFormed : Json → Prop
  | null : WellFormed null
  | bool {truth : Bool} : WellFormed (bool truth)
  | number {numeral : Numeral} : numeral.WellFormed → WellFormed (number numeral)
  | string {text : String} : WellFormed (string (some text))
  | array {items : List Json} : (∀ item ∈ items, WellFormed item) → WellFormed (array items)
  | object {members : List (Option String × Json)} : (∀ member ∈ members, member.1.isSome = true) →
      (∀ member ∈ members, WellFormed member.2) → WellFormed (object members)

theorem skipBlanks_cons (solid : isBlank c = false) : skipBlanks (c :: cs) = c :: cs :=
  List.dropWhile_cons_of_neg (by simp [solid])

theorem solid_of_numeral (first : c = '-' ∨ isDigit c = true) : isBlank c = false ∧ c ≠ ']' := by
  constructor
  · cases blank : isBlank c with
    | false => rfl
    | true =>
      simp only [isBlank, Bool.or_eq_true, decide_eq_true_eq] at blank
      rcases blank with ((rfl | rfl) | rfl) | rfl <;> exact absurd first (by decide)
  · rintro rfl
    exact absurd first (by decide)

theorem exists_write (wellFormed : value.WellFormed) :
    ∃ c more, write value = c :: more ∧ isBlank c = false ∧ c ≠ ']' := by
  cases wellFormed with
  | null => exact ⟨'n', _, rfl, by decide⟩
  | @bool truth =>
    cases truth with
    | false => exact ⟨'f', _, rfl, by decide⟩
    | true => exact ⟨'t', _, rfl, by decide⟩
  | number numeral =>
    obtain ⟨c, more, starts, first⟩ := exists_writeNumeral numeral
    exact ⟨c, more, starts, solid_of_numeral first⟩
  | string => exact ⟨'"', _, rfl, by decide⟩
  | array => exact ⟨'[', _, rfl, by decide⟩
  | object => exact ⟨'{', _, rfl, by decide⟩

theorem exists_writeItems (wellFormed : item.WellFormed) :
    ∃ c more, writeItems (item :: items) = c :: more ∧ isBlank c = false ∧ c ≠ ']' := by
  obtain ⟨c, more, starts, solid⟩ := exists_write wellFormed
  cases items with
  | nil => exact ⟨c, more, by rw [writeItems, starts], solid⟩
  | cons next others => exact ⟨c, more ++ ',' :: writeItems (next :: others), by simp [writeItems, starts], solid⟩

theorem exists_writeMembers (member : Option String × Json) (members : List (Option String × Json)) :
    ∃ more, writeMembers (member :: members) = '"' :: more := by
  obtain ⟨key, value⟩ := member
  cases members with
  | nil => exact ⟨_, by rw [writeMembers, writeText]; rfl⟩
  | cons next others => exact ⟨_, by simp [writeMembers, writeText]; rfl⟩

theorem readValue_numeral (first : c = '-' ∨ isDigit c = true) : readValue (fuel + 1) (c :: cs) =
    (readNumeral (c :: cs)).map fun read => (number read.1, read.2) := by
  rw [readValue, skipBlanks_cons (solid_of_numeral first).1]
  split
  all_goals first
    | rfl
    | rename_i same
      cases same
      exact absurd first (by decide)

theorem readValue_string : readValue (fuel + 1) ('"' :: cs) =
    (readString cs).map fun read => (string read.1, read.2) := rfl

theorem readValue_array (solid : isBlank c = false) (other : c ≠ ']') : readValue (fuel + 1) ('[' :: c :: cs) =
    (readItems fuel (c :: cs)).map fun read => (array read.1, read.2) := by
  rw [readValue, skipBlanks_cons rfl]
  simp only [skipBlanks_cons solid]
  split
  · rename_i same
    cases same
    exact absurd rfl other
  · rfl

theorem readValue_object : readValue (fuel + 1) ('{' :: '"' :: cs) =
    (readMembers fuel ('"' :: cs)).map fun read => (object read.1, read.2) := rfl

section Several
variable {key : Option String} {inside : List Char}

theorem readItems_last (read : readValue fuel cs = some (item, ']' :: rest)) :
    readItems (fuel + 1) cs = some ([item], rest) := by
  rw [readItems, read]
  rfl

theorem readItems_more (read : readValue fuel cs = some (item, ',' :: rest)) :
    readItems (fuel + 1) cs = (readItems fuel rest).map fun read => (item :: read.1, read.2) := by
  rw [readItems, read]
  rfl

theorem readMembers_last (named : readString cs = some (key, ':' :: inside))
    (read : readValue fuel inside = some (value, '}' :: rest)) :
    readMembers (fuel + 1) ('"' :: cs) = some ([(key, value)], rest) := by
  rw [readMembers, skipBlanks_cons rfl]
  simp only [named, skipBlanks_cons (rfl : isBlank ':' = false), read, skipBlanks_cons (rfl : isBlank '}' = false)]

theorem readMembers_more (named : readString cs = some (key, ':' :: inside))
    (read : readValue fuel inside = some (value, ',' :: rest)) :
    readMembers (fuel + 1) ('"' :: cs) = (readMembers fuel rest).map fun read => ((key, value) :: read.1, read.2) := by
  rw [readMembers, skipBlanks_cons rfl]
  simp only [named, skipBlanks_cons (rfl : isBlank ':' = false), read, skipBlanks_cons (rfl : isBlank ',' = false)]

end Several

-- What a reader with some fuel reads back as it was written.
structure Reads (fuel : Nat) : Prop where
  value {value : Json} {rest : List Char} : value.WellFormed → Behind rest → 2 * (write value).length ≤ fuel →
    readValue fuel (write value ++ rest) = some (value, rest)
  items {items : List Json} {rest : List Char} : items ≠ [] → (∀ item ∈ items, item.WellFormed) →
    2 * (writeItems items).length < fuel → readItems fuel (writeItems items ++ ']' :: rest) = some (items, rest)
  members {members : List (Option String × Json)} {rest : List Char} : members ≠ [] →
    (∀ member ∈ members, member.1.isSome = true) → (∀ member ∈ members, member.2.WellFormed) →
    2 * (writeMembers members).length < fuel →
    readMembers fuel (writeMembers members ++ '}' :: rest) = some (members, rest)

section Step
variable (reads : Reads fuel)
include reads

theorem readValue_step (wellFormed : value.WellFormed) (behind : Behind rest)
    (enough : 2 * (write value).length ≤ fuel + 1) :
    readValue (fuel + 1) (write value ++ rest) = some (value, rest) := by
  cases wellFormed with
  | null => rfl
  | @bool truth => cases truth <;> rfl
  | @number numeral wellFormed =>
    obtain ⟨c, more, starts, first⟩ := exists_writeNumeral wellFormed
    have read := readNumeral_writeNumeral wellFormed behind
    rw [starts] at read
    rw [write, starts, List.cons_append, readValue_numeral first, ← List.cons_append, read]
    rfl
  | @string text =>
    have read : readString (text.toList.flatMap writeChar ++ '"' :: rest) = some (some text, rest) :=
      readString_writeText text
    have starts : write (string (some text)) ++ rest = '"' :: (text.toList.flatMap writeChar ++ '"' :: rest) := by
      simp [write, writeText]
    rw [starts, readValue_string, read]
    rfl
  | @array items wellFormed =>
    cases items with
    | nil => rfl
    | cons item more =>
      obtain ⟨c, behind, starts, solid, other⟩ := exists_writeItems (wellFormed item List.mem_cons_self)
      have length : (write (array (item :: more))).length = (writeItems (item :: more)).length + 2 := by simp [write]
      have read : readItems fuel (writeItems (item :: more) ++ ']' :: rest) = some (item :: more, rest) :=
        reads.items (List.cons_ne_nil item more) wellFormed (by omega)
      have whole : write (array (item :: more)) ++ rest = '[' :: (writeItems (item :: more) ++ ']' :: rest) := by
        simp [write]
      rw [whole]
      rw [starts, List.cons_append] at read ⊢
      rw [readValue_array solid other, read]
      rfl
  | @object members named wellFormed =>
    cases members with
    | nil => rfl
    | cons member more =>
      obtain ⟨behind, starts⟩ := exists_writeMembers member more
      have length : (write (object (member :: more))).length = (writeMembers (member :: more)).length + 2 := by
        simp [write]
      have read : readMembers fuel (writeMembers (member :: more) ++ '}' :: rest) = some (member :: more, rest) :=
        reads.members (List.cons_ne_nil member more) named wellFormed (by omega)
      have whole : write (object (member :: more)) ++ rest = '{' :: (writeMembers (member :: more) ++ '}' :: rest) := by
        simp [write]
      rw [whole]
      rw [starts, List.cons_append] at read ⊢
      rw [readValue_object, read]
      rfl

theorem readItems_step (nonempty : items ≠ []) (wellFormed : ∀ item ∈ items, item.WellFormed)
    (enough : 2 * (writeItems items).length < fuel + 1) :
    readItems (fuel + 1) (writeItems items ++ ']' :: rest) = some (items, rest) := by
  obtain ⟨item, more, rfl⟩ := List.exists_cons_of_ne_nil nonempty
  have first := wellFormed item List.mem_cons_self
  cases more with
  | nil =>
    rw [writeItems] at enough ⊢
    exact readItems_last (reads.value first .bracket (by omega))
  | cons next others =>
    have whole : writeItems (item :: next :: others) = write item ++ ',' :: writeItems (next :: others) := by
      simp [writeItems]
    rw [whole, List.length_append, List.length_cons] at enough
    rw [whole, List.append_assoc, List.cons_append, readItems_more (reads.value first .comma (by omega)),
      reads.items (List.cons_ne_nil next others) (fun item member => wellFormed item (List.mem_cons_of_mem _ member))
        (by omega)]
    rfl

theorem readMembers_step (nonempty : members ≠ []) (named : ∀ member ∈ members, member.1.isSome = true)
    (wellFormed : ∀ member ∈ members, member.2.WellFormed) (enough : 2 * (writeMembers members).length < fuel + 1) :
    readMembers (fuel + 1) (writeMembers members ++ '}' :: rest) = some (members, rest) := by
  obtain ⟨⟨name, value⟩, more, rfl⟩ := List.exists_cons_of_ne_nil nonempty
  obtain ⟨key, rfl⟩ := Option.isSome_iff_exists.mp (named _ List.mem_cons_self)
  have first : value.WellFormed := wellFormed _ List.mem_cons_self
  cases more with
  | nil =>
    have whole : writeMembers [(some key, value)] ++ '}' :: rest =
        '"' :: (key.toList.flatMap writeChar ++ '"' :: ':' :: (write value ++ '}' :: rest)) := by
      simp [writeMembers, writeText]
    simp only [writeMembers, List.length_append, List.length_cons] at enough
    rw [whole]
    exact readMembers_last (readString_writeText key) (reads.value first .brace (by omega))
  | cons next others =>
    have whole : writeMembers ((some key, value) :: next :: others) ++ '}' :: rest =
        '"' :: (key.toList.flatMap writeChar ++
          '"' :: ':' :: (write value ++ ',' :: (writeMembers (next :: others) ++ '}' :: rest))) := by
      simp [writeMembers, writeText]
    simp only [writeMembers, List.length_append, List.length_cons] at enough
    rw [whole, readMembers_more (readString_writeText key) (reads.value first .comma (by omega)),
      reads.members (List.cons_ne_nil next others) (fun member among => named member (List.mem_cons_of_mem _ among))
        (fun member among => wellFormed member (List.mem_cons_of_mem _ among)) (by omega)]
    rfl

end Step

theorem reads (fuel : Nat) : Reads fuel := by
  induction fuel with
  | zero =>
    refine ⟨fun wellFormed _ enough => ?_, nofun, nofun⟩
    obtain ⟨c, more, starts, _⟩ := exists_write wellFormed
    rw [starts, List.length_cons] at enough
    omega
  | succ fuel ih => exact ⟨readValue_step ih, readItems_step ih, readMembers_step ih⟩

-- The text of a value is read as the value.
theorem parse?_render (wellFormed : value.WellFormed) : parse? value.render = some value := by
  have read : readValue (2 * (write value).length + 2) (write value) = some (value, []) := by
    have read := (reads (2 * (write value).length + 2)).value wellFormed .nothing (Nat.le_add_right _ 2)
    rwa [List.append_nil] at read
  rw [parse?, render, String.toList_ofList, read]
  rfl

end TextFeatures.Json
