import TextFeatures.Unicode.Table

namespace TextFeatures.Unicode

variable {α β γ : Type} {c separator : Char} {code : Nat} {final : Option Nat} {known : α}
  {read readOn : List Char → α} {chars digits piece : List Char} {more : List (List Char)}

-- A fold that sees the rest as well, by the recursor itself: the kernel has less to unfold in it than in what other
-- recursions are compiled to, and the tables that it goes through are long.
noncomputable def foldRest (step : β → List β → γ → γ) (stop : γ) (members : List β) : γ :=
  List.rec (motive := fun _ => γ) stop step members

section Pieces

theorem pieces_separator : pieces separator (separator :: chars) = [] :: pieces separator chars := if_pos rfl

theorem pieces_other (other : c ≠ separator) (parts : pieces separator chars = piece :: more) :
    pieces separator (c :: chars) = (c :: piece) :: more := by
  rw [pieces, if_neg other, parts]

theorem exists_pieces (separator : Char) (chars : List Char) :
    ∃ more, pieces separator chars = chars.takeWhile (· ≠ separator) :: more := by
  induction chars with
  | nil => exact ⟨[], rfl⟩
  | cons c rest ih =>
    obtain ⟨more, parts⟩ := ih
    by_cases same : c = separator
    · rw [same, pieces_separator]
      exact ⟨pieces separator rest, by simp⟩
    · rw [pieces_other same parts]
      exact ⟨more, by simp [same]⟩

end Pieces

def addDigit (code : Nat) (c : Char) : Nat := 16 * code + hexDigit c

theorem readHex_eq : readHex digits = digits.foldl addDigit 0 := rfl

-- How far an entry has been read: up to its first code point, up to its last one, or farther.
inductive Place where
  | start (code : Nat)
  | stop (code : Nat) (final : Option Nat)
  | past

namespace Place

def next : Place → Char → Place
  | start code, c => if c = '-' then stop code none else start (addDigit code c)
  | stop code final, c => stop code (some (addDigit (final.getD 0) c))
  | past, _ => past

def entry (known : α) : Place → List (Entry α)
  | start code => [⟨code, code, known⟩]
  | stop code final => [⟨code, final.getD code, known⟩]
  | past => []

theorem foldl_next_past : chars.foldl next past = past := by
  induction chars with
  | nil => rfl
  | cons c rest ih => exact ih

theorem entry_foldl_stop : (digits.foldl next (stop code final)).entry known =
    [⟨code, if digits.isEmpty then final.getD code else digits.foldl addDigit (final.getD 0), known⟩] := by
  induction digits generalizing final with
  | nil => rfl
  | cons c rest ih =>
    rw [List.foldl_cons, next, ih]
    cases rest <;> rfl

theorem entry_foldl_start : (digits.foldl next (start code)).entry known =
    let first := (digits.takeWhile (· ≠ '-')).foldl addDigit code
    let last := (digits.dropWhile (· ≠ '-')).tail
    [⟨first, if last.isEmpty then first else readHex last, known⟩] := by
  induction digits generalizing code with
  | nil => rfl
  | cons c rest ih =>
    by_cases dash : c = '-'
    · rw [List.foldl_cons, next, if_pos dash, entry_foldl_stop]
      simp [dash, readHex_eq]
    · rw [List.foldl_cons, next, if_neg dash, ih]
      simp [dash]

def finish (read : List Char → α) (place : Place) (piece : List Char) : List (Entry α) :=
  ((piece.takeWhile (· ≠ ':')).foldl next place).entry (read (piece.dropWhile (· ≠ ':')).tail)

theorem finish_start : (start 0).finish read piece = [readEntry read piece] := by
  rw [finish, entry_foldl_start]
  rfl

theorem finish_past : past.finish read piece = [] := by
  rw [finish, foldl_next_past]
  rfl

theorem finish_colon {place : Place} : place.finish read (':' :: piece) = place.entry (read piece) := by
  simp [finish]

theorem finish_other {place : Place} (other : c ≠ ':') :
    place.finish read (c :: piece) = (place.next c).finish read piece := by
  simp [finish, other]

end Place

-- The entries of a row in one go, where a value is read from what follows, up to the next blank.
noncomputable def scan (readOn : List Char → α) (chars : List Char) : Place → List (Entry α) :=
  foldRest (fun c rest later place =>
    if c = ' ' then place.entry (readOn []) ++ later (.start 0)
    else if c = ':' then place.entry (readOn rest) ++ later .past
    else later (place.next c)) (fun place => place.entry (readOn [])) chars

theorem scan_eq {place : Place} (agrees : ∀ rest, readOn rest = read (rest.takeWhile (· ≠ ' ')))
    (parts : pieces ' ' chars = piece :: more) :
    scan readOn chars place = place.finish read piece ++ more.map (readEntry read) := by
  induction chars generalizing place piece more with
  | nil =>
    obtain ⟨rfl, rfl⟩ := List.cons.inj parts
    exact (congrArg place.entry (agrees [])).trans (List.append_nil _).symm
  | cons c rest ih =>
    obtain ⟨others, first⟩ := exists_pieces ' ' rest
    have step : scan readOn (c :: rest) place =
        if c = ' ' then place.entry (readOn []) ++ scan readOn rest (.start 0)
        else if c = ':' then place.entry (readOn rest) ++ scan readOn rest .past
        else scan readOn rest (place.next c) := rfl
    rw [step]
    by_cases blank : c = ' '
    · rw [blank, pieces_separator] at parts
      obtain ⟨rfl, rfl⟩ := List.cons.inj parts
      rw [if_pos blank, ih first, first, Place.finish_start, agrees]
      rfl
    · rw [pieces_other blank first] at parts
      obtain ⟨rfl, rfl⟩ := List.cons.inj parts
      rw [if_neg blank]
      by_cases colon : c = ':'
      · rw [if_pos colon, ih first, Place.finish_past, colon, Place.finish_colon, agrees]
        rfl
      · rw [if_neg colon, ih first, Place.finish_other colon]

theorem row_eq_scan {first last : Nat} (agrees : ∀ rest, readOn rest = read (rest.takeWhile (· ≠ ' '))) :
    row read first last (String.ofList chars) = ⟨first, last, scan readOn chars (.start 0)⟩ := by
  obtain ⟨more, parts⟩ := exists_pieces ' ' chars
  rw [row, String.toList_ofList, scan_eq agrees parts, parts, Place.finish_start]
  rfl

noncomputable def scanCodes (chars : List Char) : Nat → List Nat :=
  foldRest (fun c _ later code =>
    if c = ' ' then [code]
    else if c = '.' then code :: later 0
    else later (addDigit code c)) (fun code => [code]) chars

theorem scanCodes_eq (parts : pieces '.' (chars.takeWhile (· ≠ ' ')) = piece :: more) :
    scanCodes chars code = piece.foldl addDigit code :: more.map readHex := by
  induction chars generalizing code piece more with
  | nil =>
    obtain ⟨rfl, rfl⟩ := List.cons.inj parts
    rfl
  | cons c rest ih =>
    obtain ⟨others, first⟩ := exists_pieces '.' (rest.takeWhile (· ≠ ' '))
    have step : scanCodes (c :: rest) code =
        if c = ' ' then [code]
        else if c = '.' then code :: scanCodes rest 0
        else scanCodes rest (addDigit code c) := rfl
    rw [step]
    by_cases blank : c = ' '
    · have nothing : (c :: rest).takeWhile (· ≠ ' ') = [] := by simp [blank]
      rw [nothing] at parts
      obtain ⟨rfl, rfl⟩ := List.cons.inj parts
      rw [if_pos blank]
      rfl
    · have onward : (c :: rest).takeWhile (· ≠ ' ') = c :: rest.takeWhile (· ≠ ' ') := by simp [blank]
      rw [onward] at parts
      rw [if_neg blank]
      by_cases dot : c = '.'
      · rw [dot, pieces_separator] at parts
        obtain ⟨rfl, rfl⟩ := List.cons.inj parts
        rw [if_pos dot, ih first, first]
        rfl
      · rw [pieces_other dot first] at parts
        obtain ⟨rfl, rfl⟩ := List.cons.inj parts
        rw [if_neg dot, ih first]
        rfl

theorem mappingRow_eq_scan {first last : Nat} : mappingRow first last (String.ofList chars) =
    ⟨first, last, scan (fun rest => (scanCodes rest 0).map Char.ofNat) chars (.start 0)⟩ := by
  refine row_eq_scan fun rest => ?_
  obtain ⟨more, parts⟩ := exists_pieces '.' (rest.takeWhile (· ≠ ' '))
  rw [scanCodes_eq parts, parts, List.map_cons, List.map_cons, List.map_map]
  rfl

end TextFeatures.Unicode
