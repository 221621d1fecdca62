import TextFeatures.Json.Decode
import TextFeatures.Proofs.Json.Numerals

namespace TextFeatures

namespace Decimal

variable {tie : Tie} {value : Magnitude} {e : Int} {n d : Nat} {c : Char} {more : List Char}

theorem exists_toDigits (positive : n ≠ 0) : ∃ c more, Nat.toDigits 10 n = c :: more ∧ c ≠ '0' := by
  induction n using Nat.strongRecOn with
  | ind n ih =>
    rw [Nat.toDigits_eq_if (by decide)]
    split
    · exact ⟨n.digitChar, [], rfl, fun zero => positive (Nat.digitChar_eq_zero.mp zero)⟩
    · rename_i large
      obtain ⟨c, more, upper, nonzero⟩ := ih (n / 10) (by omega) (by omega)
      exact ⟨c, more ++ [(n % 10).digitChar], by rw [upper]; rfl, nonzero⟩

theorem dropTrailingZeros_cons (nonzero : c ≠ '0') :
    dropTrailingZeros (c :: more) = c :: dropTrailingZeros more := by
  unfold dropTrailingZeros
  rw [List.reverse_cons, List.dropWhile_append]
  split
  · rename_i none
    rw [List.isEmpty_iff.mp none, List.dropWhile_cons_of_neg (by simpa using nonzero)]
    rfl
  · rw [List.reverse_append]
    rfl

theorem mem_of_mem_dropTrailingZeros (member : c ∈ dropTrailingZeros more) : c ∈ more := by
  rw [dropTrailingZeros, List.mem_reverse] at member
  exact List.mem_reverse.mp ((List.dropWhile_sublist _).subset member)

-- A decimal that lies between the midpoints to the neighbours of a value.
def ReadsBack (value : Magnitude) (e : Int) (d : Nat) : Prop :=
  let low := (ratio (4 * value.significand - if value.closeBelow then 1 else 2) (value.exponent - 2) e).1
  let (_, denominator) := ratio (4 * value.significand) (value.exponent - 2) e
  let high := (ratio (4 * value.significand + 2) (value.exponent - 2) e).1
  if value.significand % 2 = 0 then low ≤ d * denominator ∧ d * denominator ≤ high
  else low < d * denominator ∧ d * denominator < high

instance {d : Nat} : Decidable (ReadsBack value e d) := inferInstanceAs (Decidable (ite _ _ _))

theorem readsBack_of_nearestOnGrid (found : nearestOnGrid tie value e = some d) : ReadsBack value e d := by
  obtain ⟨below, nearer, choice⟩ : ∃ below nearer, nearestOnGrid tie value e =
      if ReadsBack value e below then
        if ReadsBack value e (below + 1) ∧ nearer = true then some (below + 1) else some below
      else if ReadsBack value e (below + 1) then some (below + 1) else none := ⟨_, _, rfl⟩
  rw [choice] at found
  split at found
  · rename_i readsBack
    split at found
    · rename_i above
      exact Option.some.inj found ▸ above.1
    · exact Option.some.inj found ▸ readsBack
  · split at found
    · rename_i above
      exact Option.some.inj found ▸ above
    · cases found

theorem not_readsBack_zero (positive : value.significand ≠ 0) : ¬ReadsBack value e 0 := by
  have low : 0 < (ratio (4 * value.significand - if value.closeBelow then 1 else 2) (value.exponent - 2) e).1 := by
    have some : 0 < 4 * value.significand - if value.closeBelow then 1 else 2 := by split <;> omega
    exact Nat.mul_pos (Nat.mul_pos some (Nat.pow_pos (by decide))) (Nat.pow_pos (by decide))
  unfold ReadsBack
  simp only [Nat.zero_mul]
  split <;> omega

-- What digits look like: none at all where no seventeen are enough, zero, or digits that do not start with zero.
inductive Shown : Digits → Prop
  | none : Shown ⟨[], 0⟩
  | zero : Shown ⟨['0'], 1⟩
  | leading {c : Char} {more : List Char} {point : Int} : c ≠ '0' → (∀ d ∈ c :: more, d.isDigit = true) →
      Shown ⟨c :: more, point⟩

theorem Shown.isDigit {spelled : Digits} (shown : Shown spelled) : ∀ c ∈ spelled.digits, c.isDigit = true := by
  cases shown with
  | none => nofun
  | zero =>
    rintro c member
    rw [List.mem_singleton.mp member]
    rfl
  | leading _ digits => exact digits

theorem shown_shortest (tie : Tie) (x : Float) : Shown (shortest tie x) := by
  unfold shortest
  dsimp only
  split
  · exact .zero
  · rename_i positive
    split
    · exact .none
    · rename_i digits e found
      obtain ⟨count, _, found⟩ := List.exists_of_findSome?_eq_some found
      obtain ⟨d, near, shown⟩ := Option.map_eq_some_iff.mp found
      cases shown
      obtain ⟨c, more, digits, nonzero⟩ := exists_toDigits (n := d) fun zero =>
        not_readsBack_zero positive (zero ▸ readsBack_of_nearestOnGrid near)
      rw [digits, dropTrailingZeros_cons nonzero]
      refine .leading nonzero fun digit member => ?_
      have kept : digit ∈ Nat.toDigits 10 d :=
        digits ▸ List.cons_subset_cons c (fun _ => mem_of_mem_dropTrailingZeros) member
      exact Nat.isDigit_of_mem_toDigits (by decide) (by decide) kept

end Decimal

namespace Numeral

variable {n significand : Nat} {digits : List Nat} {cs : List Char} {c : Char} {x : Float} {numeral : Numeral}

theorem toNat_of_isDigit (digit : c.isDigit = true) : '0'.toNat ≤ c.toNat ∧ c.toNat < '0'.toNat + 10 := by
  have within : 48 ≤ c.toNat ∧ c.toNat ≤ 57 := by simpa [Char.isDigit, UInt32.le_iff_toNat_le] using digit
  exact ⟨within.1, Nat.lt_succ_of_le within.2⟩

theorem value_ne_zero (digit : c.isDigit = true) (nonzero : c ≠ '0') : c.toNat - '0'.toNat ≠ 0 := by
  have other : c.toNat ≠ '0'.toNat := fun same => nonzero (Char.toNat_inj.mp same)
  have within := toNat_of_isDigit digit
  omega

theorem digitValues_lt (each : ∀ c ∈ cs, c.isDigit = true) : ∀ d ∈ digitValues cs, d < 10 := by
  intro d member
  obtain ⟨c, among, rfl⟩ := List.mem_map.mp member
  have within := toNat_of_isDigit (each c among)
  omega

theorem isDigit_of_mem_zeros {count : Int} (member : c ∈ Decimal.zeros count) : c.isDigit = true := by
  rw [List.eq_of_mem_replicate member]
  rfl

theorem digitsOf_lt : ∀ d ∈ digitsOf n, d < 10 :=
  digitValues_lt fun _ member => Nat.isDigit_of_mem_toDigits (by decide) (by decide) member

theorem digitsOf_ne_nil : digitsOf n ≠ [] := by
  simp [digitsOf]

theorem wellFormed_ofNat (n : Nat) : (ofNat n).WellFormed where
  leading := by
    by_cases zero : n = 0
    · subst zero
      exact .inl rfl
    · obtain ⟨c, more, digits, nonzero⟩ := Decimal.exists_toDigits zero
      have digit : c.isDigit = true :=
        Nat.isDigit_of_mem_toDigits (by decide) (by decide) (digits ▸ List.mem_cons_self)
      exact .inr ⟨_, digitValues more, congrArg digitValues digits, value_ne_zero digit nonzero⟩
  whole := digitsOf_lt
  fraction := nofun
  exponent := nofun

theorem le_foldl_digits : significand ≤ digits.foldl (fun n d => n * 10 + d) significand := by
  induction digits generalizing significand with
  | nil => exact Nat.le_refl significand
  | cons d rest ih =>
    have grown : significand ≤ significand * 10 + d := by omega
    exact Nat.le_trans grown ih

theorem accumulate_eq (below : digits.foldl (fun n d => n * 10 + d) significand < wordLimit) :
    accumulate significand digits = (digits.foldl (fun n d => n * 10 + d) significand, []) := by
  induction digits generalizing significand with
  | nil => rfl
  | cons d rest ih =>
    rw [List.foldl_cons] at below
    rw [accumulate, if_pos (Nat.lt_of_le_of_lt le_foldl_digits below), ih below, List.foldl_cons]

theorem foldl_digitsOf (n : Nat) : (digitsOf n).foldl (fun n d => n * 10 + d) 0 = n := by
  rw [digitsOf, List.foldl_map]
  simp only [Nat.mul_comm _ 10]
  rw [← Nat.ofDigitChars_eq_foldl, Nat.ofDigitChars_ten_toDigits]

theorem number?_ofNat (small : n < wordLimit) : (ofNat n).number? = some (.natural n) := by
  have value := foldl_digitsOf n
  have read : accumulate 0 (digitsOf n) = (n, []) := by
    rw [accumulate_eq (value.symm ▸ small), value]
  rw [ofNat, number?, read]
  rfl

inductive Spelling (x : Float) : Numeral → Prop
  | zero {negative : Bool} : Spelling x ⟨negative, [0], [0], none⟩
  | scientific {negative : Bool} {c : Char} {more : List Char} {exponent : Int} : c ≠ '0' →
      (∀ d ∈ c :: more, d.isDigit = true) →
      Spelling x ⟨negative, digitValues [c], digitValues more, some (exponent < 0, digitsOf exponent.natAbs)⟩
  | small {negative : Bool} {fraction : List Char} : (x == 0) = false → (∀ d ∈ fraction, d.isDigit = true) →
      Spelling x ⟨negative, [0], digitValues fraction, none⟩
  | large {negative : Bool} {whole : List Char} {fraction : List Nat} :
      (whole = ['0'] ∨ ∃ c more, whole = c :: more ∧ c ≠ '0') → (∀ d ∈ whole, d.isDigit = true) → fraction ≠ [] →
      (∀ d ∈ fraction, d < 10) → Spelling x ⟨negative, digitValues whole, fraction, none⟩

theorem fraction_spelled (digits : ∀ c ∈ cs, c.isDigit = true) :
    (if cs.isEmpty then [0] else digitValues cs) ≠ [] ∧ ∀ d ∈ if cs.isEmpty then [0] else digitValues cs, d < 10 := by
  cases cs with
  | nil => decide
  | cons c more => exact ⟨List.cons_ne_nil _ _, digitValues_lt digits⟩

theorem spelling_ofFloat (x : Float) : Spelling x (ofFloat x) := by
  unfold ofFloat
  have shown := Decimal.shown_shortest .toEven x
  generalize Decimal.shortest .toEven x = spelled at shown
  dsimp only
  split
  · exact .zero
  · rename_i nonzero
    rw [Bool.not_eq_true] at nonzero
    split
    · rename_i far
      cases shown with
      | none => cases far
      | zero => cases far
      | leading first digits => exact .scientific first digits
    · split
      · refine .small nonzero fun d member => ?_
        rcases List.mem_append.mp member with padding | among
        · exact isDigit_of_mem_zeros padding
        · exact shown.isDigit d among
      · rename_i above
        obtain ⟨n, point⟩ : ∃ n : Nat, spelled.point = (n + 1 : Nat) := ⟨spelled.point.toNat - 1, by omega⟩
        obtain ⟨some, fraction⟩ := fraction_spelled fun d member =>
          shown.isDigit d (List.mem_of_mem_drop (i := spelled.point.toNat) member)
        refine .large ?_ (fun d member => ?_) some fraction
        · cases shown with
          | none => exact absurd (Int.le_refl 0) above
          | zero => exact .inl rfl
          | leading first =>
            obtain rfl := point
            exact .inr ⟨_, _, rfl, first⟩
        · rcases List.mem_append.mp member with among | padding
          · exact shown.isDigit d (List.mem_of_mem_take among)
          · exact isDigit_of_mem_zeros padding

theorem Spelling.wellFormed (spelling : Spelling x numeral) : numeral.WellFormed := by
  cases spelling with
  | zero => exact ⟨.inl rfl, by simp, by simp, nofun⟩
  | scientific nonzero digits =>
    have first := digits _ List.mem_cons_self
    refine ⟨.inr ⟨_, [], rfl, value_ne_zero first nonzero⟩, digitValues_lt (by simpa using first),
      digitValues_lt fun d member => digits d (List.mem_cons_of_mem _ member), ?_⟩
    rintro down digits ⟨⟩
    exact ⟨digitsOf_ne_nil, digitsOf_lt⟩
  | small _ digits => exact ⟨.inl rfl, by simp, digitValues_lt digits, nofun⟩
  | large leading digits _ fraction =>
    refine ⟨?_, digitValues_lt digits, fraction, nofun⟩
    rcases leading with rfl | ⟨c, more, rfl, nonzero⟩
    · exact .inl rfl
    · exact .inr ⟨_, digitValues more, rfl, value_ne_zero (digits c List.mem_cons_self) nonzero⟩

theorem number?_eq_natural (read : numeral.number? = some (.natural n)) :
    numeral.fraction = [] ∧ numeral.exponent = none ∧ n = (accumulate 0 numeral.whole).1 := by
  unfold number? at read
  dsimp only at read
  split at read
  · rename_i fraction exponent _
    split at read
    · cases read
    · cases read
      exact ⟨fraction, exponent, rfl⟩
  · obtain ⟨_, _, other⟩ := Option.map_eq_some_iff.mp read
    cases other

-- No double is read as a natural number that stands for it: without a fraction there is nothing but a zero, and zero
-- itself has one.
theorem Spelling.ne_of_natural (spelling : Spelling x numeral) (read : numeral.number? = some (.natural n)) :
    Float.ofNat n ≠ x := by
  obtain ⟨whole, plain, value⟩ := number?_eq_natural read
  cases spelling with
  | zero => cases whole
  | scientific => cases plain
  | small nonzero =>
    obtain rfl : n = 0 := value
    have zero : (Float.ofNat 0 == 0) = true := by decide +kernel
    rintro rfl
    cases zero.symm.trans nonzero
  | large _ _ some => exact absurd whole some

end Numeral

end TextFeatures
