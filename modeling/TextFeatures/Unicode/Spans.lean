namespace TextFeatures.Unicode

-- A set of code points as pairs of a first and a last member, in increasing order and with a gap
-- between any two.
abbrev Spans := List (Nat × Nat)

namespace Spans

def lastCode : Nat := 0x10ffff

-- Puts a span in front of spans that start no earlier, joining what overlaps or touches.
def cons (first last : Nat) : List (Nat × Nat) → Spans
  | [] => [(first, last)]
  | (a, b) :: rest =>
    if a ≤ last + 1 then cons first (max last b) rest else (first, last) :: cons a b rest

def ofPairs (pairs : List (Nat × Nat)) : Spans :=
  match pairs.mergeSort fun x y => x.1 ≤ y.1 with
  | [] => []
  | (a, b) :: rest => cons a b rest

def union (left right : Spans) : Spans := ofPairs (left ++ right)

def gapsFrom (start : Nat) : Spans → Spans
  | [] => if start ≤ lastCode then [(start, lastCode)] else []
  | (a, b) :: rest =>
    if start < a then (start, a - 1) :: gapsFrom (b + 1) rest else gapsFrom (b + 1) rest

def complement (spans : Spans) : Spans := gapsFrom 0 spans

def intersection (left right : Spans) : Spans := (left.complement.union right.complement).complement

def difference (left right : Spans) : Spans := (left.complement.union right).complement

def exclusion (left right : Spans) : Spans :=
  (left.difference right).union (right.difference left)

def contains (spans : Spans) (code : Nat) : Bool :=
  spans.any fun span => span.1 ≤ code && code ≤ span.2

def surrogates : Spans := [(0xd800, 0xdfff)]

def characters (spans : Spans) : Spans := spans.difference surrogates

end Spans

end TextFeatures.Unicode
