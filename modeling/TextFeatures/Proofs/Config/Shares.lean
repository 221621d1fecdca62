import Mathlib
import TextFeatures.Config

namespace TextFeatures

namespace Share
open Float.Model

variable {share : Share}

theorem ofFloat_value (number : share.value.isNaN = false) : ofFloat share.value = share := by
  have kept : share.value.toBits.toBitVec =
      UnpackedFloat.pack .binary64 (UnpackedFloat.unpack .binary64 share.bits.toBitVec) := rfl
  rw [UnpackedFloat.pack_unpack] at kept
  split at kept
  · have broken : share.value.isNaN = (UnpackedFloat.unpack .binary64 share.value.toBits.toBitVec).isNaN := rfl
    rw [kept, UnpackedFloat.unpack_packedNaN, number] at broken
    cases broken
  · exact congrArg Share.mk (UInt64.toBitVec_inj.mp kept)

theorem finite_of_within (within : (0 ≤ share.value && share.value ≤ 1) = true) :
    share.value.isFinite = true ∧ share.value.isNaN = false := by
  obtain ⟨low, high⟩ := (Bool.and_eq_true _ _).mp within
  replace low : UnpackedFloat.le (0 : Float).toModel.unpack share.value.toModel.unpack = true :=
    of_decide_eq_true (of_decide_eq_true low)
  replace high : UnpackedFloat.le share.value.toModel.unpack (1 : Float).toModel.unpack = true :=
    of_decide_eq_true (of_decide_eq_true high)
  change share.value.toModel.unpack.isFinite = true ∧ share.value.toModel.unpack.isNaN = false
  obtain ⟨mantissa, exponent, positive, one⟩ : ∃ mantissa exponent positive,
      (1 : Float).toModel.unpack = .finite .positive mantissa exponent positive := ⟨_, _, _, rfl⟩
  have zero : (0 : Float).toModel.unpack = .zero .positive := rfl
  rw [zero] at low
  rw [one] at high
  cases value : share.value.toModel.unpack with
  | notANumber =>
    rw [value] at low
    cases low
  | infinity sign =>
    rw [value] at low high
    cases sign with
    | negative => cases low
    | positive => cases high
  | zero => exact ⟨rfl, rfl⟩
  | finite => exact ⟨rfl, rfl⟩

end Share

end TextFeatures
