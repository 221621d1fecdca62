import Mathlib

namespace TextFeatures

-- Doubles that stand for numbers are ordered as these numbers are, and counts of up to 53 bits stand for themselves.
section Doubles
open Float.Model Float.Model.UnpackedFloat

-- The number that an unpacked double stands for. There is none for an infinity, nor for what is no number.
def numberOf : UnpackedFloat → Option ℚ
  | .zero _ => some 0
  | .finite sign mantissa exponent _ => some (sign.apply mantissa * 2 ^ exponent)
  | .infinity _ | .notANumber => none

def rational? (x : Float) : Option ℚ := numberOf x.toModel.unpack

-- The mantissa of a double has 53 bits unless the exponent is as small as it can be.
structure Fits (mantissa : Nat) (exponent : Int) : Prop where
  bits : mantissa < 2 ^ 53
  least : -1074 ≤ exponent
  full : 2 ^ 52 ≤ mantissa ∨ exponent = -1074

def Canonical : UnpackedFloat → Prop
  | .finite _ mantissa exponent _ => Fits mantissa exponent
  | _ => True

variable {a b : UnpackedFloat} {m k : Nat} {e f : Int} {p q : ℚ} {x y : Float} {n : Nat}

theorem scaled_lt (fits : Fits m e) (fitsToo : Fits k f) (lower : e < f) : (m : ℚ) * 2 ^ e < k * 2 ^ f := by
  have two : (2 : ℚ) ≠ 0 := by norm_num
  have full : 2 ^ 52 ≤ k := fitsToo.full.resolve_right fun smallest => by
    have := fits.least
    omega
  have below : (m : ℚ) < 2 ^ 53 := by exact_mod_cast fits.bits
  have above : (2 : ℚ) ^ 52 ≤ k := by exact_mod_cast full
  calc (m : ℚ) * 2 ^ e
    _ < 2 ^ (53 : ℕ) * 2 ^ e := by gcongr
    _ = 2 ^ (52 : ℕ) * 2 ^ (e + 1) := by
      rw [zpow_add_one₀ two]
      ring
    _ ≤ 2 ^ (52 : ℕ) * 2 ^ f := by
      gcongr
      · norm_num
      · omega
    _ ≤ k * 2 ^ f := by gcongr

theorem compare_scaled (fits : Fits m e) (fitsToo : Fits k f) :
    (compare e f).then (compare m k) = compare ((m : ℚ) * 2 ^ e) (k * 2 ^ f) := by
  rcases lt_trichotomy e f with lower | rfl | higher
  · rw [compare_lt_iff_lt.mpr lower, compare_lt_iff_lt.mpr (scaled_lt fits fitsToo lower)]
    rfl
  · have scale : (0 : ℚ) < 2 ^ e := by positivity
    rw [compare_eq_iff_eq.mpr rfl]
    rcases lt_trichotomy m k with less | rfl | more
    · have scaled : (m : ℚ) * 2 ^ e < k * 2 ^ e := by gcongr
      rw [compare_lt_iff_lt.mpr less, compare_lt_iff_lt.mpr scaled]
      rfl
    · rw [compare_eq_iff_eq.mpr rfl, compare_eq_iff_eq.mpr rfl]
      rfl
    · have scaled : (k : ℚ) * 2 ^ e < m * 2 ^ e := by gcongr
      rw [compare_gt_iff_gt.mpr more, compare_gt_iff_gt.mpr scaled]
      rfl
  · rw [compare_gt_iff_gt.mpr higher, compare_gt_iff_gt.mpr (scaled_lt fitsToo fits higher)]
    rfl

theorem compare_negated : (compare p q).swap = compare (-p) (-q) := by
  rcases lt_trichotomy p q with less | rfl | more
  · rw [compare_lt_iff_lt.mpr less, compare_gt_iff_gt.mpr (neg_lt_neg less)]
    rfl
  · rw [compare_eq_iff_eq.mpr rfl, compare_eq_iff_eq.mpr rfl]
    rfl
  · rw [compare_gt_iff_gt.mpr more, compare_lt_iff_lt.mpr (neg_lt_neg more)]
    rfl

theorem positive_number (positive : 0 < m) : (0 : ℚ) < (Sign.apply .positive m : Int) * 2 ^ e := by
  have more : (0 : ℚ) < m * 2 ^ e := by positivity
  exact more

theorem negative_number (positive : 0 < m) : ((Sign.apply .negative m : Int) : ℚ) * 2 ^ e < 0 := by
  have more : (0 : ℚ) < m * 2 ^ e := by positivity
  simpa [Sign.apply] using more

theorem compare_numbers (canonical : Canonical a) (canonicalToo : Canonical b) (number : numberOf a = some p)
    (numberToo : numberOf b = some q) : a.compare b = some (compare p q) := by
  cases a with
  | infinity | notANumber => cases number
  | zero sign =>
    cases number
    cases b with
    | infinity | notANumber => cases numberToo
    | zero other =>
      cases numberToo
      rw [compare_eq_iff_eq.mpr rfl]
      rfl
    | finite other k f above =>
      cases numberToo
      cases other with
      | positive =>
        rw [compare_lt_iff_lt.mpr (positive_number above)]
        rfl
      | negative =>
        rw [compare_gt_iff_gt.mpr (negative_number above)]
        rfl
  | finite sign m e positive =>
    cases number
    cases b with
    | infinity | notANumber => cases numberToo
    | zero other =>
      cases numberToo
      cases sign with
      | positive =>
        rw [compare_gt_iff_gt.mpr (positive_number positive)]
        rfl
      | negative =>
        rw [compare_lt_iff_lt.mpr (negative_number positive)]
        rfl
    | finite other k f above =>
      cases numberToo
      have magnitudes := compare_scaled canonical canonicalToo
      cases sign <;> cases other
      case negative.negative =>
        have negated : compare (-((m : ℚ) * 2 ^ e)) (-(k * 2 ^ f)) = ((compare e f).then (compare m k)).swap := by
          rw [magnitudes, compare_negated]
        simp only [UnpackedFloat.compare, ← negated, Sign.apply, Int.cast_neg, Int.cast_natCast, neg_mul]
      case negative.positive =>
        rw [compare_lt_iff_lt.mpr ((negative_number positive).trans (positive_number above))]
        rfl
      case positive.negative =>
        rw [compare_gt_iff_gt.mpr ((negative_number above).trans (positive_number positive))]
        rfl
      case positive.positive => exact congrArg some magnitudes

theorem fits_unpack (bits : BitVec Format.binary64.numBits) : Canonical (UnpackedFloat.unpack .binary64 bits) := by
  have mantissa : (unpackMantissa bits).toNat < 2 ^ 52 := (unpackMantissa bits).isLt
  unfold UnpackedFloat.unpack
  dsimp only
  split
  · split <;> trivial
  · split
    · rename_i smallest
      split
      · trivial
      · have exponent : (unpackExponent bits).toNat = 0 := by rw [smallest]; rfl
        refine ⟨by omega, ?_, .inr ?_⟩ <;> simp [exponent, Format.exponentBias]
    · rename_i notSmallest
      have exponent : (unpackExponent bits).toNat ≠ 0 := fun zero => notSmallest (BitVec.eq_of_toNat_eq zero)
      have full : (1#1 ++ unpackMantissa bits).toNat = 2 ^ 52 + (unpackMantissa bits).toNat := by
        rw [BitVec.toNat_append, ← Nat.shiftLeft_add_eq_or_of_lt mantissa]
        rfl
      refine ⟨by omega, ?_, .inl (by omega)⟩
      have bias : Format.exponentBias .binary64 = 1023 := rfl
      rw [bias]
      omega

theorem le_iff_rational (number : rational? x = some p) (numberToo : rational? y = some q) : x ≤ y ↔ p ≤ q := by
  have compared := compare_numbers (fits_unpack _) (fits_unpack _) number numberToo
  change decide (UnpackedFloat.le x.toModel.unpack y.toModel.unpack = true) = true ↔ p ≤ q
  rw [decide_eq_true_eq, UnpackedFloat.le, Float.Model.unpack, Float.Model.unpack, compared, Option.any_some,
    Ordering.isLE_iff_ne_gt]
  exact compare_le_iff_le

theorem lt_iff_rational (number : rational? x = some p) (numberToo : rational? y = some q) : x < y ↔ p < q := by
  have compared := compare_numbers (fits_unpack _) (fits_unpack _) number numberToo
  change decide (UnpackedFloat.lt x.toModel.unpack y.toModel.unpack = true) = true ↔ p < q
  rw [decide_eq_true_eq, UnpackedFloat.lt, Float.Model.unpack, Float.Model.unpack, compared]
  simp [compare_lt_iff_lt]

-- A mantissa whose bits beyond the 53rd are zero is shortened without a loss.
theorem shift_exact {j : Nat} (few : j ≤ n) :
    ExtendedMantissa.mk (m * 2 ^ n) false false >>> j = ExtendedMantissa.mk (m * 2 ^ (n - j)) false false := by
  change j.repeat ExtendedMantissa.shiftRightOne _ = _
  induction j with
  | zero => rfl
  | succ j ih =>
    have even : m * 2 ^ (n - j) = m * 2 ^ (n - (j + 1)) * 2 := by
      rw [Nat.mul_assoc, ← Nat.pow_succ]
      congr 2
      omega
    rw [Nat.repeat, ih (by omega), even]
    simp [ExtendedMantissa.shiftRightOne]

theorem targetExponent_eq (full : 2 ^ 52 ≤ m) (bits : m < 2 ^ 53) (least : -1074 ≤ e) :
    Format.binary64.targetExponent (totalExponent (m * 2 ^ n) (e - n)) = e := by
  have log : (m * 2 ^ n).log2 = 52 + n := by
    refine (Nat.log2_eq_iff (by positivity)).mpr ⟨?_, ?_⟩
    · rw [Nat.pow_add]
      gcongr
    · rw [show 52 + n + 1 = 53 + n by omega, Nat.pow_add]
      gcongr
  have bounds : Format.binary64.mantissaBits = 53 ∧ Format.binary64.minExponent = -1074 := ⟨rfl, rfl⟩
  rw [Format.targetExponent, totalExponent, log, bounds.1, bounds.2]
  omega

theorem shiftToTargetExponent_exact (full : 2 ^ 52 ≤ m) (bits : m < 2 ^ 53) (least : -1074 ≤ e) :
    shiftToTargetExponent .binary64 (m * 2 ^ n) (e - n) .exact = (ExtendedMantissa.mk m false false, e) := by
  have amount : (e - (e - n)).toNat = n := by omega
  have shortened := shift_exact (m := m) (Nat.le_refl n)
  rw [Nat.sub_self, Nat.pow_zero, Nat.mul_one] at shortened
  simp only [shiftToTargetExponent, targetExponent_eq full bits least, shiftToExponent, amount,
    ExtendedMantissa.ofMantissaAndAccuracy, shortened, Int.sub_add_cancel]

theorem roundWithAccuracy_exact (sign : Sign) (full : 2 ^ 52 ≤ m) (bits : m < 2 ^ 53) (least : -1074 ≤ e) :
    roundWithAccuracy .binary64 sign (m * 2 ^ n) (e - n) .exact = .finite sign m e (by omega) := by
  have again : shiftToTargetExponent .binary64 m e .exact = (ExtendedMantissa.mk m false false, e) := by
    simpa using shiftToTargetExponent_exact (n := 0) full bits least
  have nonzero : m ≠ 0 := by omega
  have rounded : (ExtendedMantissa.mk m false false).roundedMantissa = m := rfl
  simp only [roundWithAccuracy, shiftToTargetExponent_exact full bits least, rounded, again, dif_neg nonzero]

theorem ofNat_exact (positive : 0 < n) (bits : n < 2 ^ 53) :
    ∃ k : Nat, k ≤ 52 ∧ ∃ full : 2 ^ 52 ≤ n * 2 ^ k, n * 2 ^ k < 2 ^ 53 ∧
      UnpackedFloat.ofNat .binary64 n = .finite .positive (n * 2 ^ k) (-k) (by omega) := by
  have log : n.log2 < 53 := (Nat.log2_lt (by omega)).mpr bits
  obtain ⟨k, log⟩ : ∃ k, n.log2 + k = 52 := ⟨52 - n.log2, by omega⟩
  obtain ⟨low, high⟩ := (Nat.log2_eq_iff (by omega)).mp (rfl : n.log2 = n.log2)
  have full : 2 ^ 52 ≤ n * 2 ^ k := by
    rw [← log, Nat.pow_add]
    gcongr
  have short : n * 2 ^ k < 2 ^ 53 := by
    rw [show 53 = n.log2 + 1 + k by omega, Nat.pow_add]
    gcongr
  refine ⟨k, by omega, full, short, ?_⟩
  have bounds : Format.binary64.mantissaBits = 53 ∧ Format.binary64.minExponent = -1074 := ⟨rfl, rfl⟩
  have target : Format.binary64.targetExponent (totalExponent n 0) = -k := by
    rw [Format.targetExponent, totalExponent, bounds.1, bounds.2]
    omega
  have sign : compare (n : Int) 0 = .gt := compare_gt_iff_gt.mpr (by exact_mod_cast positive)
  have rounded := roundWithAccuracy_exact (n := 0) .positive full short (e := -k) (by omega)
  rw [Nat.pow_zero, Nat.mul_one, Int.natCast_zero, Int.sub_zero] at rounded
  simp only [UnpackedFloat.ofNat, UnpackedFloat.ofInt, UnpackedFloat.normalize, sign, UnpackedFloat.round,
    Int.toNat_natCast, target, decreaseExponent, Nat.shiftLeft_eq, Int.zero_sub, Int.neg_neg, rounded]

theorem toNat_ordinary {stored : Nat} (positive : 0 < stored) (below : stored < 2047) :
    (BitVec.ofNat 11 stored).toNat = stored ∧ BitVec.ofNat 11 stored ≠ -1#_ ∧ BitVec.ofNat 11 stored ≠ 0#_ := by
  have storedBits : (BitVec.ofNat 11 stored).toNat = stored := by
    rw [BitVec.toNat_ofNat, Nat.mod_eq_of_lt (by omega)]
  refine ⟨storedBits, fun all => ?_, fun none => ?_⟩
  · have alike := congrArg BitVec.toNat all
    rw [storedBits] at alike
    have top : (-1#11).toNat = 2047 := by decide
    omega
  · have alike := congrArg BitVec.toNat none
    rw [storedBits] at alike
    have bottom : (0#11).toNat = 0 := rfl
    omega

-- The first bit of a full mantissa is not stored.
theorem toNat_implicit (full : 2 ^ 52 ≤ m) (bits : m < 2 ^ 53) : (1#1 ++ BitVec.ofNat 52 m).toNat = m := by
  have rest : (BitVec.ofNat 52 m).toNat = m - 2 ^ 52 := by
    rw [BitVec.toNat_ofNat]
    omega
  have implicit : (1#1).toNat <<< 52 = 2 ^ 52 := rfl
  rw [BitVec.toNat_append, ← Nat.shiftLeft_add_eq_or_of_lt (BitVec.isLt _), rest, implicit]
  omega

theorem pack_exact {stored : Nat} (full : 2 ^ 52 ≤ m) (bits : m < 2 ^ 53) (shifted : (stored : Int) = e + 1075)
    (most : e ≤ 0) : UnpackedFloat.pack .binary64 (.finite .positive m e (by omega)) =
      packComponents .binary64 .positive (BitVec.ofNat _ stored) (BitVec.ofNat _ m) := by
  have log : m.log2 = 52 := (Nat.log2_eq_iff (by omega)).mpr ⟨full, bits⟩
  have bias : Format.exponentBias .binary64 = 1023 := rfl
  have biased : (e + (Format.exponentBias .binary64 : Nat) + 52).toNat = stored := by
    rw [bias]
    omega
  have mantissaBits : m.log2 + 1 = Format.binary64.mantissaBits := by rw [log]; rfl
  simp only [UnpackedFloat.pack, Int.cast_ofNat_Int, biased]
  rw [if_neg (by omega), if_pos mantissaBits]

theorem unpack_pack (full : 2 ^ 52 ≤ m) (bits : m < 2 ^ 53) (least : -1022 ≤ e) (most : e ≤ 0) :
    (Float.Model.pack (.finite .positive m e (by omega))).unpack = .finite .positive m e (by omega) := by
  obtain ⟨stored, shifted⟩ : ∃ stored : Nat, (stored : Int) = e + 1075 := ⟨(e + 1075).toNat, by omega⟩
  obtain ⟨storedBits, notAll, notNone⟩ := toNat_ordinary (by omega : 0 < stored) (by omega : stored < 2047)
  change UnpackedFloat.unpack .binary64 (UnpackedFloat.pack .binary64 _) = _
  rw [pack_exact full bits shifted most, UnpackedFloat.unpack]
  simp only [unpackExponent_packComponents, unpackMantissa_packComponents, unpackSign_packComponents, if_neg notAll,
    if_neg notNone, toNat_implicit full bits, storedBits, Sign.ofBitVec_toBitVec]
  have bias : Format.exponentBias .binary64 = 1023 := rfl
  congr 1
  rw [bias]
  omega

-- A count is made a double and multiplied by one; neither step rounds.
theorem rational?_ofNat (bits : n < 2 ^ 53) : rational? (Float.ofNat n) = some (n : ℚ) := by
  rcases Nat.eq_zero_or_pos n with rfl | positive
  · rfl
  obtain ⟨k, few, full, short, counted⟩ := ofNat_exact positive bits
  have least : (-1022 : Int) ≤ -k := by omega
  have count : (Float.Model.ofUInt64 n.toUInt64).unpack = .finite .positive (n * 2 ^ k) (-k) (by omega) := by
    have word : n.toUInt64.toNat = n := by
      rw [Nat.toUInt64_eq, UInt64.toNat_ofNat']
      omega
    have whole : UnpackedFloat.ofUInt64 .binary64 n.toUInt64 = .finite .positive (n * 2 ^ k) (-k) (by omega) := by
      rw [UnpackedFloat.ofUInt64, word, counted]
    rw [Float.Model.ofUInt64, whole, unpack_pack full short least (by omega)]
  have one : (1 : Float).toModel.unpack = .finite .positive (2 ^ 52) (-52) (by decide) := rfl
  have product : (Float.ofNat n).toModel = Float.Model.mul (.ofUInt64 n.toUInt64) (1 : Float).toModel := by
    unfold Float.ofNat OfScientific.ofScientific instOfScientificFloat Float.ofScientific
    dsimp only
    rw [dif_pos ⟨bits, by decide⟩]
    rfl
  have rounded := roundWithAccuracy_exact (n := 52) .positive full short (e := -k) (by omega)
  have multiplied : UnpackedFloat.mul .binary64 (Float.Model.ofUInt64 n.toUInt64).unpack (1 : Float).toModel.unpack =
      .finite .positive (n * 2 ^ k) (-k) (by omega) := by
    rw [count, one]
    exact rounded
  have two : (2 : ℚ) ^ k ≠ 0 := by positivity
  rw [rational?, product, Float.Model.mul, multiplied, unpack_pack full short least (by omega), numberOf]
  simp [Sign.apply, two]

end Doubles

end TextFeatures
