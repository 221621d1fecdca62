namespace TextFeatures

-- A set of natural numbers as a tree of their binary digits, least digit first.
inductive NumberSet where
  | empty
  | node (zero : Bool) (even odd : NumberSet)
deriving DecidableEq, Repr

namespace NumberSet

def contains : NumberSet → Nat → Bool
  | empty, _ => false
  | node zero even odd, n =>
    if n = 0 then zero
    else if n % 2 = 0 then even.contains (n / 2)
    else odd.contains (n / 2)

def insertZero : NumberSet → NumberSet
  | empty => node true empty empty
  | node _ even odd => node true even odd

-- The first argument bounds the number of digits; any number has at most as many as its size.
def insertWithin : Nat → Nat → NumberSet → NumberSet
  | 0, _, set => set.insertZero
  | digits + 1, n, set =>
    if n = 0 then set.insertZero
    else
      let (zero, even, odd) := match set with
        | empty => (false, empty, empty)
        | node zero even odd => (zero, even, odd)
      if n % 2 = 0 then node zero (insertWithin digits (n / 2) even) odd
      else node zero even (insertWithin digits (n / 2) odd)

def insert (set : NumberSet) (n : Nat) : NumberSet := insertWithin n n set

theorem contains_empty (n : Nat) : empty.contains n = false := rfl

theorem contains_insertZero (set : NumberSet) (m : Nat) :
    set.insertZero.contains m = (m = 0 || set.contains m) := by
  cases set <;> by_cases h : m = 0 <;> simp [insertZero, contains, h]

theorem contains_insertWithin (digits n : Nat) (set : NumberSet) (m : Nat) (enough : n ≤ digits) :
    (insertWithin digits n set).contains m = (m = n || set.contains m) := by
  induction digits generalizing n set m with
  | zero =>
    have : n = 0 := by omega
    subst this
    exact contains_insertZero set m
  | succ digits ih =>
    by_cases zero : n = 0
    · subst zero
      simpa [insertWithin] using contains_insertZero set m
    · have half : n / 2 ≤ digits := by omega
      have same : m % 2 = n % 2 → (m / 2 = n / 2 ↔ m = n) := by omega
      have apart : m % 2 ≠ n % 2 → m ≠ n := by omega
      by_cases even : n % 2 = 0 <;> by_cases evenM : m % 2 = 0 <;> by_cases zeroM : m = 0 <;>
        cases set <;> simp_all [insertWithin, contains] <;> omega

theorem contains_insert (set : NumberSet) (n m : Nat) :
    (set.insert n).contains m = (m = n || set.contains m) :=
  contains_insertWithin n n set m (Nat.le_refl n)

end NumberSet

end TextFeatures
