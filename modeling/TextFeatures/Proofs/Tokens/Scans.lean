import TextFeatures.Proofs.Tokens.LongWords

namespace TextFeatures

namespace Text

variable {p : Char → Bool} {inside : Bool} {text left word right : List Char}

theorem MaximalRun.in_place (maximal : MaximalRun p inside text left word right) :
    word = (text.take (left.length + word.length)).drop left.length := by
  rw [maximal.parts, List.drop_take, Nat.add_sub_cancel_left, List.append_assoc, List.drop_left, List.take_left]

theorem MaximalRun.within (maximal : MaximalRun p inside text left word right) :
    left.length + word.length ≤ text.length := by
  rw [maximal.parts, List.length_append, List.length_append]
  exact Nat.le_add_right _ _

end Text

namespace Words
open Unicode Text

-- What is made of a word, from where it starts: at the blank behind it, of which the offset is known, and at the end of
-- the text.
structure Scanner (α : Type) where
  atBlank : Nat → List Char → Nat → α
  atEnd : Nat → List Char → α

-- What a scan has come to: the words that are over, and the characters of a word that may still go on. While there are
-- none of these, the start says nothing.
structure Scan (α : Type) where
  found : List α
  pending : List Char
  start : Nat

namespace Scan

variable {α : Type}

def step (scanner : Scanner α) (scan : Scan α) (place : Char × Nat) : Scan α :=
  if isBlank place.1 then
    if scan.pending.isEmpty then scan
    else
      { scan with
        found := scan.found ++ [scanner.atBlank scan.start scan.pending place.2]
        pending := [] }
  else
    { scan with
      pending := scan.pending ++ [place.1]
      start := if scan.pending.isEmpty then place.2 else scan.start }

def finish (scanner : Scanner α) (scan : Scan α) : List α :=
  if scan.pending.isEmpty then scan.found else scan.found ++ [scanner.atEnd scan.start scan.pending]

end Scan

def Scanner.scan {α : Type} (scanner : Scanner α) (text : List Char) : List α :=
  (text.zipIdx.foldl (Scan.step scanner) ⟨[], [], 0⟩).finish scanner

-- Tokens stop where the scan stands, or as many characters behind their start as they have.
def tokenScanner : Scanner Token where
  atBlank start word here := Token.plain (String.ofList word) start here
  atEnd start word := Token.plain (String.ofList word) start (start + word.length)

def offsetScanner : Scanner (Nat × List Char) where
  atBlank start word _ := (start, word)
  atEnd start word := (start, word)

section Runs

variable {α : Type} {scanner : Scanner α} {f : Nat × List Char → α} {scan : Scan α} {here : Nat} {c : Char}
  {text rest : List Char}

-- Both ways to make something of a word come to the same.
structure Scanner.Makes (scanner : Scanner α) (f : Nat × List Char → α) : Prop where
  atBlank : ∀ start word, scanner.atBlank start word (start + word.length) = f (start, word)
  atEnd : ∀ start word, scanner.atEnd start word = f (start, word)

-- The characters that are pending are those in front of the scan, and there is no blank among them.
structure Scan.Stands (scan : Scan α) (here : Nat) : Prop where
  unbroken : ∀ c ∈ scan.pending, isBlank c = false
  place : scan.pending ≠ [] → scan.start + scan.pending.length = here

-- What a scan comes to in the end: what it has found, and the runs of what is pending and not read yet.
def Scan.outcome (f : Nat × List Char → α) (scan : Scan α) (here : Nat) (rest : List Char) : List α :=
  scan.found ++ (runsFrom (here - scan.pending.length) (scan.pending ++ rest)).map f

theorem Scan.step_stands (stands : scan.Stands here) : (scan.step scanner (c, here)).Stands (here + 1) := by
  unfold Scan.step
  split
  · split
    · rename_i nothing
      have empty := List.isEmpty_iff.mp nothing
      exact ⟨stands.unbroken, fun some => absurd empty some⟩
    · exact ⟨fun c among => (List.not_mem_nil among).elim, fun some => absurd rfl some⟩
  · rename_i solid
    constructor
    · intro d among
      rcases List.mem_append.mp among with earlier | last
      · exact stands.unbroken d earlier
      · obtain rfl := List.mem_singleton.mp last
        exact Bool.eq_false_of_not_eq_true solid
    · intro _
      rw [List.length_append, List.length_singleton]
      split
      · rename_i nothing
        rw [List.isEmpty_iff.mp nothing]
        rfl
      · rename_i some
        rw [← Nat.add_assoc, stands.place fun empty => some (List.isEmpty_iff.mpr empty)]

-- A character goes from what is not read to what is read, and the outcome stays what it was.
theorem Scan.outcome_step (makes : scanner.Makes f) (stands : scan.Stands here) :
    (scan.step scanner (c, here)).outcome f (here + 1) rest = scan.outcome f here (c :: rest) := by
  unfold Scan.step
  split
  · rename_i blank
    split
    · rename_i nothing
      have empty := List.isEmpty_iff.mp nothing
      simp only [Scan.outcome, empty, List.length_nil, Nat.sub_zero, List.nil_append]
      rw [runsFrom_blank blank]
    · rename_i some
      have nonempty : scan.pending ≠ [] := fun empty => some (List.isEmpty_iff.mpr empty)
      have place := stands.place nonempty
      have start : here - scan.pending.length = scan.start := by omega
      simp only [Scan.outcome, List.length_nil, Nat.sub_zero, List.nil_append]
      rw [start, runsFrom_append nonempty stands.unbroken (.blank blank), runsFrom_blank blank, place, List.map_cons,
        ← makes.atBlank, place, List.append_assoc]
      rfl
  · have start : here + 1 - (scan.pending.length + 1) = here - scan.pending.length := Nat.add_sub_add_right _ _ _
    simp only [Scan.outcome, List.length_append, List.length_singleton]
    rw [start, List.append_assoc]
    rfl

theorem Scan.finish_eq_outcome (makes : scanner.Makes f) (stands : scan.Stands here) :
    scan.finish scanner = scan.outcome f here [] := by
  unfold Scan.finish Scan.outcome
  split
  · rename_i nothing
    rw [List.isEmpty_iff.mp nothing]
    exact (List.append_nil _).symm
  · rename_i some
    have nonempty : scan.pending ≠ [] := fun empty => some (List.isEmpty_iff.mpr empty)
    have place := stands.place nonempty
    have start : here - scan.pending.length = scan.start := by omega
    rw [start, runsFrom_append nonempty stands.unbroken .done, makes.atEnd]
    rfl

theorem Scan.finish_foldl (makes : scanner.Makes f) (stands : scan.Stands here) :
    ((rest.zipIdx here).foldl (Scan.step scanner) scan).finish scanner = scan.outcome f here rest := by
  induction rest generalizing scan here with
  | nil => exact Scan.finish_eq_outcome makes stands
  | cons c rest ih =>
    rw [List.zipIdx_cons, List.foldl_cons, ih (Scan.step_stands stands), Scan.outcome_step makes stands]

theorem scan_eq (makes : scanner.Makes f) : scanner.scan text = (runs text).map f := by
  have stands : (⟨[], [], 0⟩ : Scan α).Stands 0 :=
    ⟨fun c among => (List.not_mem_nil among).elim, fun some => absurd rfl some⟩
  exact Scan.finish_foldl makes stands

end Runs

theorem scan_tokenScanner (text : String) : tokenScanner.scan text.toList = tokens text :=
  scan_eq ⟨fun _ _ => rfl, fun _ _ => rfl⟩

theorem scan_offsetScanner (text : List Char) : offsetScanner.scan text = runs text := by
  have makes : offsetScanner.Makes id := ⟨fun _ _ => rfl, fun _ _ => rfl⟩
  rw [scan_eq makes, List.map_id]

theorem mem_runs_iff {text : List Char} {run : Nat × List Char} : run ∈ runs text ↔
    ∃ left right, MaximalRun isUnbroken false text left run.2 right ∧ run.1 = left.length := by
  rw [runs, runsFrom_eq, mem_runsAfter_iff]
  simp only [Nat.zero_add]

theorem runs_ordered (text : List Char) : (runs text).Pairwise fun one next => one.1 + one.2.length < next.1 := by
  rw [runs, runsFrom_eq]
  exact runsAfter_ordered

theorem mem_tokens_iff {text : String} {token : Token} : token ∈ tokens text ↔
    ∃ left word right, MaximalRun isUnbroken false text.toList left word right ∧
      token = Token.plain (String.ofList word) left.length (left.length + word.length) := by
  rw [tokens, List.mem_map]
  constructor
  · rintro ⟨run, among, rfl⟩
    obtain ⟨left, right, maximal, start⟩ := mem_runs_iff.mp among
    refine ⟨left, run.2, right, maximal, ?_⟩
    rw [runToken, start]
  · rintro ⟨left, word, right, maximal, rfl⟩
    exact ⟨(left.length, word), mem_runs_iff.mpr ⟨left, right, maximal, rfl⟩, rfl⟩

theorem runs_eq_map_tokens (text : String) :
    runs text.toList = (tokens text).map fun token => (token.start, token.text.toList) := by
  rw [tokens, List.map_map]
  refine (List.map_id'' ?_ _).symm
  intro run
  exact congrArg (Prod.mk run.1) String.toList_ofList

-- A text is scanned for its words in two ways, and both find every maximal run without blanks, where it stands, and
-- nothing else. Something is between any two of them, and words that are joined by spaces are found again.
theorem scans_find_the_words :
    (∀ text : String, tokenScanner.scan text.toList = tokens text ∧
      offsetScanner.scan text.toList = (tokens text).map (fun token => (token.start, token.text.toList)) ∧
      (∀ token, token ∈ tokens text ↔ ∃ left word right, MaximalRun isUnbroken false text.toList left word right ∧
        token = Token.plain (String.ofList word) left.length (left.length + word.length)) ∧
      (tokens text).Pairwise (fun one next => one.stop < next.start) ∧
      ∀ token ∈ tokens text, token.text ≠ "" ∧ token.stop ≤ text.length ∧
        token.text.toList = (text.toList.take token.stop).drop token.start) ∧
    ∀ words : List String, (∀ word ∈ words, IsWord word) →
      textsOf (tokenScanner.scan (joined words).toList) = words ∧
      (offsetScanner.scan (joined words).toList).map Prod.snd = words.map String.toList := by
  constructor
  · intro text
    refine ⟨scan_tokenScanner text, ?_, fun _ => mem_tokens_iff, ?_, ?_⟩
    · rw [scan_offsetScanner, runs_eq_map_tokens]
    · rw [tokens, List.pairwise_map]
      exact runs_ordered text.toList
    · intro token among
      obtain ⟨left, word, right, maximal, rfl⟩ := mem_tokens_iff.mp among
      refine ⟨?_, ?_, ?_⟩
      · intro empty
        have none : (String.ofList word).toList = [] := congrArg String.toList empty
        rw [String.toList_ofList] at none
        exact maximal.nonempty none
      · rw [← String.length_toList]
        exact maximal.within
      · rw [Token.plain, String.toList_ofList]
        exact maximal.in_place
  · intro words areWords
    rw [scan_tokenScanner, scan_offsetScanner]
    exact ⟨textsOf_tokens_joined areWords, map_runsFrom_joined areWords⟩

theorem scans_find_places :
    (∀ word ∈ ["Zürich", "is", "a", "café"], IsWord word) ∧
      textsOf (tokenScanner.scan (joined ["Zürich", "is", "a", "café"]).toList) = ["Zürich", "is", "a", "café"] ∧
      (offsetScanner.scan (joined ["Zürich", "is", "a", "café"]).toList).map Prod.snd =
        ["Zürich", "is", "a", "café"].map String.toList := by
  have areWords : ∀ word ∈ ["Zürich", "is", "a", "café"], IsWord word := by decide +kernel
  exact ⟨areWords, scans_find_the_words.2 _ areWords⟩

end Words

end TextFeatures
