namespace TextFeatures.Decimal

-- The decimal `0.d₁d₂… · 10 ^ point`, without trailing zeros.
structure Digits where
  digits : List Char
  point : Int
deriving DecidableEq, Repr

-- A finite double without its sign: `significand · 2 ^ exponent`. The double below a power of two
-- is half as far away as the one above.
structure Magnitude where
  significand : Nat
  exponent : Int
  closeBelow : Bool

def isNegative (x : Float) : Bool := Nat.pow 2 63 ≤ x.toBits.toNat

def magnitude (x : Float) : Magnitude :=
  let bits := x.toBits.toNat
  let fraction := bits % Nat.pow 2 52
  let biased := bits / Nat.pow 2 52 % Nat.pow 2 11
  if biased = 0 then ⟨fraction, -1074, false⟩
  else ⟨Nat.pow 2 52 + fraction, (biased : Int) - 1075, fraction = 0 && 1 < biased⟩

inductive Tie where
  | up
  | toEven
deriving DecidableEq, Repr

def Tie.goesUp : Tie → Nat → Bool
  | up, _ => true
  | toEven, below => below % 2 = 1

-- Numerator and denominator of `m · 2 ^ b / 10 ^ e`.
def ratio (m : Nat) (b e : Int) : Nat × Nat :=
  (m * Nat.pow 2 b.toNat * Nat.pow 10 (-e).toNat, Nat.pow 2 (-b).toNat * Nat.pow 10 e.toNat)

def leadingZeros (numerator denominator : Nat) : Nat → Nat
  | 0 => 0
  | fuel + 1 =>
    if denominator ≤ numerator * 10 then 0
    else leadingZeros (numerator * 10) denominator fuel + 1

-- The least `p` such that the value is below `10 ^ p`.
def decimalPoint (x : Magnitude) : Int :=
  let (numerator, denominator) := ratio x.significand x.exponent 0
  if denominator ≤ numerator then (Nat.toDigits 10 (numerator / denominator)).length
  -- no double is below 10 ^ -324
  else -(leadingZeros numerator denominator 324 : Nat)

-- A decimal reads back as the value if it lies between the two midpoints to the neighbouring
-- doubles; the midpoints themselves go to the even significand.
def nearestOnGrid (tie : Tie) (x : Magnitude) (e : Int) : Option Nat :=
  let (value, denominator) := ratio (4 * x.significand) (x.exponent - 2) e
  let (low, _) := ratio (4 * x.significand - if x.closeBelow then 1 else 2) (x.exponent - 2) e
  let (high, _) := ratio (4 * x.significand + 2) (x.exponent - 2) e
  let readsBack := fun d : Nat =>
    if x.significand % 2 = 0 then low ≤ d * denominator ∧ d * denominator ≤ high
    else low < d * denominator ∧ d * denominator < high
  let below := value / denominator
  let above := below + 1
  let toBelow := value - below * denominator
  let toAbove := above * denominator - value
  let aboveIsNearer := toAbove < toBelow || (toAbove = toBelow && tie.goesUp below)
  if readsBack below then
    if readsBack above ∧ aboveIsNearer then some above else some below
  else if readsBack above then some above
  else none

def dropTrailingZeros (digits : List Char) : List Char :=
  (digits.reverse.dropWhile (· = '0')).reverse

-- Of the shortest decimals the nearest is taken. Seventeen digits always suffice.
def shortest (tie : Tie) (x : Float) : Digits :=
  let value := magnitude x
  if value.significand = 0 then ⟨['0'], 1⟩
  else
    let point := decimalPoint value
    let found := (List.range 17).findSome? fun count =>
      let e := point - (count + 1 : Nat)
      (nearestOnGrid tie value e).map fun d => (Nat.toDigits 10 d, e)
    match found with
    | none => ⟨[], 0⟩
    | some (digits, e) => ⟨dropTrailingZeros digits, digits.length + e⟩

def zeros (n : Int) : List Char := List.replicate n.toNat '0'

def Digits.positional (d : Digits) : List Char :=
  if d.point ≤ 0 then '0' :: '.' :: zeros (-d.point) ++ d.digits
  else if d.digits.length ≤ d.point then d.digits ++ zeros (d.point - d.digits.length)
  else d.digits.take d.point.toNat ++ '.' :: d.digits.drop d.point.toNat

-- Never an exponent, and ties go up.
def plain (x : Float) : String :=
  if x.isNaN then "NaN"
  else
    let size := if x.isInf then "inf".toList else (shortest .up x).positional
    String.ofList (if isNegative x then '-' :: size else size)

end TextFeatures.Decimal
