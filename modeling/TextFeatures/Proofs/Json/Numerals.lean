import TextFeatures.Json.Number
import TextFeatures.Json.Reader
import TextFeatures.Json.Writer

namespace TextFeatures

-- A numeral that a text can hold: the digits are digits, the whole part has no zero in front, and an exponent has
-- digits at all.
structure Numeral.WellFormed (numeral : Numeral) : Prop where
  leading : numeral.whole = [0] ∨ ∃ first more, numeral.whole = first :: more ∧ first ≠ 0
  whole : ∀ d ∈ numeral.whole, d < 10
  fraction : ∀ d ∈ numeral.fraction, d < 10
  exponent : ∀ down digits, numeral.exponent = some (down, digits) → digits ≠ [] ∧ ∀ d ∈ digits, d < 10

namespace Json

variable {digits : List Nat} {rest : List Char} {d : Nat}

def Stops (accepts : Char → Bool) (rest : List Char) : Prop := ∀ c ∈ rest.head?, accepts c = false

inductive Behind : List Char → Prop
  | nothing : Behind []
  | comma {rest : List Char} : Behind (',' :: rest)
  | bracket {rest : List Char} : Behind (']' :: rest)
  | brace {rest : List Char} : Behind ('}' :: rest)

theorem stops_cons {accepts : Char → Bool} {c : Char} (refused : accepts c = false) : Stops accepts (c :: rest) := by
  rintro _ ⟨⟩
  exact refused

theorem Behind.stops {accepts : Char → Bool} (behind : Behind rest) (comma : accepts ',' = false)
    (bracket : accepts ']' = false) (brace : accepts '}' = false) : Stops accepts rest := by
  cases behind with
  | nothing => rintro c ⟨⟩
  | comma => exact stops_cons comma
  | bracket => exact stops_cons bracket
  | brace => exact stops_cons brace

theorem isDigit_hexDigit (small : d < 10) : isDigit (hexDigit d) = true := by
  have all : ∀ d < 10, isDigit (hexDigit d) = true := by decide
  exact all d small

theorem value_hexDigit (small : d < 10) : (hexDigit d).toNat - '0'.toNat = d := by
  have all : ∀ d < 10, (hexDigit d).toNat - '0'.toNat = d := by decide
  exact all d small

theorem digitsPrefixing_writeDigits (small : ∀ d ∈ digits, d < 10) (stops : Stops isDigit rest) :
    digitsPrefixing (writeDigits digits ++ rest) = (digits, rest) := by
  have each : ∀ c ∈ writeDigits digits, isDigit c = true := by
    intro c member
    obtain ⟨d, among, rfl⟩ := List.mem_map.mp member
    exact isDigit_hexDigit (small d among)
  have values : (writeDigits digits).map (fun c => c.toNat - '0'.toNat) = digits := by
    rw [writeDigits, List.map_map]
    exact (List.map_congr_left fun d among => value_hexDigit (small d among)).trans (List.map_id _)
  have none : rest.takeWhile isDigit = [] ∧ rest.dropWhile isDigit = rest := by
    cases rest with
    | nil => exact ⟨rfl, rfl⟩
    | cons c more =>
      have other : isDigit c = false := stops c rfl
      exact ⟨List.takeWhile_cons_of_neg (by simp [other]), List.dropWhile_cons_of_neg (by simp [other])⟩
  rw [digitsPrefixing, List.takeWhile_append_of_pos each, List.dropWhile_append_of_pos each, none.1, none.2,
    List.append_nil, values]

theorem readWhole_writeDigits (leading : digits = [0] ∨ ∃ first more, digits = first :: more ∧ first ≠ 0)
    (small : ∀ d ∈ digits, d < 10) (stops : Stops isDigit rest) :
    readWhole (writeDigits digits ++ rest) = some (digits, rest) := by
  rw [readWhole, digitsPrefixing_writeDigits small stops]
  rcases leading with rfl | ⟨first, more, rfl, nonzero⟩
  · rfl
  · obtain ⟨before, rfl⟩ := Nat.exists_eq_succ_of_ne_zero nonzero
    rfl

def writeFraction (fraction : List Nat) : List Char := if fraction.isEmpty then [] else '.' :: writeDigits fraction

theorem readFraction_writeFraction (small : ∀ d ∈ digits, d < 10) (stops : Stops isDigit rest)
    (pointless : Stops (· = '.') rest) : readFraction (writeFraction digits ++ rest) = some (digits, rest) := by
  cases digits with
  | nil =>
    cases rest with
    | nil => rfl
    | cons c more =>
      have other : c ≠ '.' := of_decide_eq_false (pointless c rfl)
      refine readFraction.eq_2 _ fun rest point => ?_
      cases point
      exact other rfl
  | cons d more =>
    simp only [writeFraction, List.isEmpty_cons, Bool.false_eq_true, if_false, List.cons_append, readFraction,
      digitsPrefixing_writeDigits small stops]

def writeExponent : Option (Bool × List Nat) → List Char
  | none => []
  | some (down, digits) => 'e' :: (if down then '-' else '+') :: writeDigits digits

theorem readExponent_writeExponent {exponent : Option (Bool × List Nat)}
    (fits : ∀ down digits, exponent = some (down, digits) → digits ≠ [] ∧ ∀ d ∈ digits, d < 10)
    (stops : Stops isDigit rest) (exponentless : Stops (fun c => c = 'e' || c = 'E') rest) :
    readExponent (writeExponent exponent ++ rest) = some (exponent, rest) := by
  cases exponent with
  | none =>
    cases rest with
    | nil => rfl
    | cons c more =>
      have other : (c = 'e' || c = 'E') = false := exponentless c rfl
      simp [writeExponent, readExponent, other]
  | some exponent =>
    obtain ⟨down, digits⟩ := exponent
    obtain ⟨some, small⟩ := fits down digits rfl
    obtain ⟨d, more, rfl⟩ := List.exists_cons_of_ne_nil some
    have read := digitsPrefixing_writeDigits small stops
    cases down <;> simp [writeExponent, readExponent, readSign, read]

theorem writeNumeral_eq (numeral : Numeral) : writeNumeral numeral = (if numeral.negative then ['-'] else []) ++
    (writeDigits numeral.whole ++ (writeFraction numeral.fraction ++ writeExponent numeral.exponent)) := by
  unfold writeNumeral writeFraction
  rw [List.append_assoc, List.append_assoc]
  cases numeral.exponent <;> rfl

theorem exists_writeDigits_whole {numeral : Numeral} (wellFormed : numeral.WellFormed) :
    ∃ c more, writeDigits numeral.whole = c :: more ∧ isDigit c = true := by
  obtain ⟨d, others, whole⟩ : ∃ d others, numeral.whole = d :: others := by
    rcases wellFormed.leading with zero | ⟨first, more, whole, _⟩
    · exact ⟨0, [], zero⟩
    · exact ⟨first, more, whole⟩
  have small : d < 10 := wellFormed.whole d (whole ▸ List.mem_cons_self)
  exact ⟨hexDigit d, writeDigits others, by rw [whole]; rfl, isDigit_hexDigit small⟩

theorem exists_writeNumeral {numeral : Numeral} (wellFormed : numeral.WellFormed) :
    ∃ c more, writeNumeral numeral = c :: more ∧ (c = '-' ∨ isDigit c = true) := by
  obtain ⟨c, more, whole, digit⟩ := exists_writeDigits_whole wellFormed
  rw [writeNumeral_eq, whole]
  cases numeral.negative with
  | true => exact ⟨'-', _, rfl, .inl rfl⟩
  | false => exact ⟨c, _, rfl, .inr digit⟩

theorem readNumeral_writeNumeral {numeral : Numeral} (wellFormed : numeral.WellFormed) (behind : Behind rest) :
    readNumeral (writeNumeral numeral ++ rest) = some (numeral, rest) := by
  obtain ⟨c, more, starts, digit⟩ := exists_writeDigits_whole wellFormed
  obtain ⟨negative, whole, fraction, exponent⟩ := numeral
  have exponentRead := readExponent_writeExponent wellFormed.exponent (behind.stops rfl rfl rfl)
    (behind.stops rfl rfl rfl)
  have tail (accepts : Char → Bool) (e : accepts 'e' = false) (others : Stops accepts rest) :
      Stops accepts (writeExponent exponent ++ rest) := by
    cases exponent with
    | none => exact others
    | some _ => exact stops_cons e
  have fractionRead := readFraction_writeFraction wellFormed.fraction (tail isDigit rfl (behind.stops rfl rfl rfl))
    (tail (· = '.') rfl (behind.stops rfl rfl rfl))
  have stops : Stops isDigit (writeFraction fraction ++ (writeExponent exponent ++ rest)) := by
    cases fraction with
    | nil => exact tail isDigit rfl (behind.stops rfl rfl rfl)
    | cons => exact stops_cons rfl
  have wholeRead := readWhole_writeDigits wellFormed.leading wellFormed.whole stops
  rw [writeNumeral_eq]
  simp only [List.append_assoc]
  unfold readNumeral
  cases negative with
  | true =>
    simp only [if_true, List.cons_append, List.nil_append]
    simp [wholeRead, fractionRead, exponentRead]
  | false =>
    simp only [Bool.false_eq_true, if_false, List.nil_append]
    split
    · rename_i signed
      rw [starts] at signed
      cases signed
      cases digit
    · simp [wholeRead, fractionRead, exponentRead]

end Json

end TextFeatures
