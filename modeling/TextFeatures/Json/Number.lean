import TextFeatures.Decimal.Shortest
import TextFeatures.Json.Basic

namespace TextFeatures

inductive Number where
  | natural (value : Nat)
  | real (value : Float)

namespace Numeral

def wordLimit : Nat := 0x10000000000000000

-- Digits are taken for as long as the significand stays below `2 ^ 64`, and the others are left.
def accumulate (significand : Nat) : List Nat → Nat × List Nat
  | [] => (significand, [])
  | d :: rest =>
    if significand * 10 + d < wordLimit then accumulate (significand * 10 + d) rest
    else (significand, d :: rest)

def powerOfTen (n : Nat) : Float := Float.ofScientific 1 false n

-- One rounded multiplication or division by a power of ten, or two divisions below 1e-308. The last
-- bit can differ from that of the nearest double; readers of configuration files have come to rely
-- on it.
def scale (x : Float) (exponent : Int) : Nat → Option Float
  | 0 => some x
  | fuel + 1 =>
    if exponent.natAbs ≤ 308 then
      if 0 ≤ exponent then
        let scaled := x * powerOfTen exponent.toNat
        if scaled.isInf then none else some scaled
      else some (x / powerOfTen (-exponent).toNat)
    else if x == 0 then some x
    else if 0 ≤ exponent then none
    else scale (x / powerOfTen 308) (exponent + 308) fuel

def signed (negative : Bool) (x : Float) : Float := if negative then -x else x

def digitsValue (digits : List Nat) : Nat := digits.foldl (fun n d => 10 * n + d) 0

def exponentLimit : Nat := 0x80000000

def real? (negative : Bool) (significand : Nat) (start : Int) (exponent : Option (Bool × List Nat)) :
    Option Float :=
  match exponent with
  | none => (scale (Float.ofNat significand) start 4).map (signed negative)
  | some (down, digits) =>
    let size := digitsValue digits
    if exponentLimit ≤ size then
      if significand ≠ 0 ∧ !down then none else some (signed negative 0)
    else
      let exponent : Int := if down then start - size else start + size
      (scale (Float.ofNat significand) exponent 4).map (signed negative)

def number? (numeral : Numeral) : Option Number :=
  let (significand, tooMany) := accumulate 0 numeral.whole
  match numeral.fraction, numeral.exponent, tooMany with
  | [], none, [] =>
    if numeral.negative then some (.real (-(Float.ofNat significand)))
    else some (.natural significand)
  | fraction, exponent, _ =>
    let (significand, ignored) := accumulate significand fraction
    let start : Int := tooMany.length - (fraction.length - ignored.length : Nat)
    (real? numeral.negative significand start exponent).map .real

def digitsOf (n : Nat) : List Nat := (Nat.toDigits 10 n).map fun c => c.toNat - '0'.toNat

def ofNat (n : Nat) : Numeral := ⟨false, digitsOf n, [], none⟩

def digitValues (digits : List Char) : List Nat := digits.map fun c => c.toNat - '0'.toNat

-- The shortest spelling of a finite double that is still recognised as one: it has a point or an
-- exponent, and the exponent comes in below `1e-5` and from `1e16` on. Ties go to the even digit.
def ofFloat (x : Float) : Numeral :=
  let d := Decimal.shortest .toEven x
  let negative := Decimal.isNegative x
  if x == 0 then ⟨negative, [0], [0], none⟩
  else if d.point ≤ -5 || 16 < d.point then
    let exponent := d.point - 1
    ⟨negative, digitValues (d.digits.take 1), digitValues (d.digits.drop 1),
      some (exponent < 0, digitsOf exponent.natAbs)⟩
  else if d.point ≤ 0 then
    ⟨negative, [0], digitValues (Decimal.zeros (-d.point) ++ d.digits), none⟩
  else
    let whole := d.digits.take d.point.toNat
    let fraction := d.digits.drop d.point.toNat
    ⟨negative, digitValues (whole ++ Decimal.zeros (d.point - whole.length)),
      if fraction.isEmpty then [0] else digitValues fraction, none⟩

end Numeral

namespace Json

def natural (n : Nat) : Json := number (Numeral.ofNat n)

def real (x : Float) : Json := if x.isFinite then number (Numeral.ofFloat x) else null

end Json

end TextFeatures
