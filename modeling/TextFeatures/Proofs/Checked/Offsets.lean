import Mathlib.Data.String.Basic
import TextFeatures.Proofs.Checked.Terms

namespace TextFeatures.Checked
open Pattern

variable {text : List Char} {start stop low counted n : Nat} {found : List Match}

-- How many characters are in front of a byte, unless the byte is behind the text or within a character.
def placeOf? (byte : Nat) : List Char → Option Nat
  | [] => if byte = 0 then some 0 else none
  | c :: rest =>
    if byte = 0 then some 0
    else if c.utf8Size ≤ byte then (placeOf? (byte - c.utf8Size) rest).map (· + 1)
    else none

def sliceBytes (text : List Char) (start stop : Nat) : Except Stop (List Char) :=
  match placeOf? start text, placeOf? stop text with
  | some first, some last => slice text first last
  | _, _ => .error (.broken .outside)

structure ByteSpan where
  start : Nat
  stop : Nat
deriving DecidableEq, Repr

-- The number of bytes in front of a character.
def byteOf (text : List Char) (place : Nat) : Nat := String.utf8Len (text.take place)

def byteSpan (text : List Char) (found : Match) : ByteSpan := ⟨byteOf text found.start, byteOf text found.stop⟩

-- Offsets are counted in characters from match to match, by the length of what lies between two matches and of what is
-- matched.
def countTokens (text : List Char) (lastByte lastChar : Nat) : List ByteSpan → Except Stop (List Token)
  | [] => .ok []
  | span :: more => do
    let gap ← sliceBytes text lastByte span.start
    let own ← sliceBytes text span.start span.stop
    let start := lastChar + gap.length
    let later ← countTokens text span.stop (start + own.length) more
    return Token.plain (String.ofList own) start (start + own.length) :: later

def tokens (pattern : Pattern) (text : String) : Except Stop (List Token) :=
  countTokens text.toList 0 0 ((pattern.findAll text).map (byteSpan text.toList))

theorem placeOf?_byteOf (inside : n ≤ text.length) : placeOf? (byteOf text n) text = some n := by
  induction text generalizing n with
  | nil =>
    obtain rfl := Nat.le_zero.mp inside
    rfl
  | cons c rest ih =>
    cases n with
    | zero => rfl
    | succ n =>
      have positive := c.utf8Size_pos
      have behind : byteOf (c :: rest) (n + 1) = byteOf rest n + c.utf8Size := by simp [byteOf]
      have found := ih (Nat.le_of_succ_le_succ inside)
      rw [behind, placeOf?, if_neg (by omega), if_pos (by omega), Nat.add_sub_cancel, found]
      rfl

theorem sliceBytes_byteOf (ordered : start ≤ stop) (inside : stop ≤ text.length) :
    sliceBytes text (byteOf text start) (byteOf text stop) = slice text start stop := by
  unfold sliceBytes
  rw [placeOf?_byteOf (Nat.le_trans ordered inside), placeOf?_byteOf inside]

theorem countTokens_eq (laid : Laid text low found) :
    countTokens text (byteOf text low) counted (found.map (byteSpan text)) = matchTokens text low counted found := by
  induction laid generalizing counted with
  | nil => rfl
  | cons behind ordered inside _ _ ih =>
    rw [List.map_cons, countTokens, matchTokens]
    simp only [byteSpan, sliceBytes_byteOf behind (Nat.le_trans ordered inside), sliceBytes_byteOf ordered inside, ih]

theorem tokens_eq {pattern : Pattern} {text : String} : tokens pattern text = .ok (pattern.tokens text) := by
  have laid := laid_findAll pattern text
  rw [tokens, Pattern.tokens, ← matchTokens_eq laid, ← countTokens_eq laid]
  rfl

end TextFeatures.Checked

namespace TextFeatures.Pattern

-- Whatever the pattern is, counting between the bytes of its matches gives each token the place in the text that its
-- characters have. Tokens may be empty, and may touch, but none reaches into another.
theorem tokens_stand_in_order (pattern : Pattern) (text : String) :
    Checked.tokens pattern text = .ok (pattern.tokens text) ∧
    (∀ token ∈ pattern.tokens text, token.start ≤ token.stop ∧ token.stop ≤ text.length ∧
      token.text.toList = (text.toList.take token.stop).drop token.start) ∧
    (pattern.tokens text).Pairwise fun one next => one.stop ≤ next.start := by
  have laid := laid_findAll pattern text
  refine ⟨Checked.tokens_eq, ?_, ?_⟩
  · intro token member
    obtain ⟨one, among, rfl⟩ := List.mem_map.mp member
    obtain ⟨_, ordered, inside, piece⟩ := laid.each one among
    refine ⟨ordered, ?_, ?_⟩
    · rw [String.length_toList] at inside
      exact inside
    · rw [matchToken, Token.plain, String.toList_ofList]
      exact piece
  · rw [tokens, List.pairwise_map]
    exact laid.pairwise

end TextFeatures.Pattern
