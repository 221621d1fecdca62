import Mathlib.Algebra.Group.Nat.Defs
import TextFeatures.Model.Bytes
import TextFeatures.Proofs.Results

namespace TextFeatures

variable {α β : Type}

namespace Bytes

def wordLimit : Nat := 256 ^ wordSize

theorem length_ofNat (count n : Nat) : (ofNat count n).length = count := by
  induction count generalizing n with
  | zero => rfl
  | succ count ih => rw [ofNat, List.length_cons, ih]

theorem toNat_ofNat {count n : Nat} (small : n < 256 ^ count) : toNat (ofNat count n) = n := by
  induction count generalizing n with
  | zero =>
    have zero : n = 0 := by simpa using small
    rw [zero]
    rfl
  | succ count ih =>
    have later : n / 256 < 256 ^ count := Nat.div_lt_of_lt_mul (by rwa [Nat.pow_succ'] at small)
    rw [ofNat, toNat, ih later, UInt8.toNat_ofNat']
    exact Nat.mod_add_div n 256

end Bytes

namespace ByteReader
open Bytes

-- These bytes are read as this value, whatever stands behind them.
abbrev Spells (read : ByteReader α) (bytes : Bytes) (value : α) : Prop :=
  ∀ behind, read (bytes ++ behind) = .ok (value, behind)

variable {read : ByteReader α} {write : α → Bytes} {bytes behind : Bytes} {value : α} {n : Nat}

theorem take_append (bytes : Bytes) : Spells (take bytes.length) bytes bytes := by
  intro behind
  simp [take]

theorem number_ofNat {size : Nat} (small : n < 256 ^ size) : Spells (number size) (ofNat size n) n := by
  intro behind
  have taken := take_append (ofNat size n) behind
  rw [length_ofNat] at taken
  rw [number, taken, ok_map, toNat_ofNat small]

theorem natural_write (small : n < wordLimit) : Spells natural (writeNatural n) n := number_ofNat small

theorem tag_write (small : n < 256 ^ tagSize) : Spells tag (writeTag n) n := number_ofNat small

theorem bool_write (value : Bool) : Spells bool (writeBool value) value := by
  intro behind
  cases value <;> rfl

theorem text_write {text : String} (short : text.utf8ByteSize < textLimit) :
    Spells ByteReader.text (writeText text) text := by
  intro behind
  have small : text.utf8ByteSize < wordLimit := Nat.lt_of_lt_of_le short (by decide)
  have taken := take_append text.toUTF8.data.toList behind
  have size : text.toUTF8.data.toList.length = text.utf8ByteSize := by simp
  have decoded : String.fromUTF8? text.toUTF8.data.toList.toByteArray = some text := by
    have valid : text.toByteArray.IsValidUTF8 := text.isValidUTF8
    have same : text.toUTF8.data.toList.toByteArray = text.toByteArray := by
      apply ByteArray.ext
      simp
    rw [same, String.fromUTF8?, dif_pos valid]
    rfl
  rw [size] at taken
  simp only [writeText, List.append_assoc, ByteReader.text, natural_write small _, ok_bind,
    Nat.not_le.mpr short, if_false, taken, decoded, pure_eq_ok]

theorem optional_write {value : Option α} (each : ∀ a ∈ value, Spells read (write a) a) :
    Spells (optional read) (writeOptional write value) value := by
  intro behind
  cases value with
  | none => rfl
  | some a =>
    simp only [writeOptional, List.append_assoc, optional, bool_write true _, ok_bind, each a rfl _, ok_map]

theorem times_write {values : List α} (each : ∀ a ∈ values, Spells read (write a) a) :
    Spells (times read values.length) (values.flatMap write) values := by
  intro behind
  induction values with
  | nil => rfl
  | cons a rest ih =>
    have later := ih fun b member => each b (List.mem_cons_of_mem _ member)
    simp only [List.length_cons, List.flatMap_cons, List.append_assoc, times, each a List.mem_cons_self _, ok_bind,
      later, pure_eq_ok]

theorem list_write {values : List α} (short : values.length < wordLimit)
    (each : ∀ a ∈ values, Spells read (write a) a) : Spells (list read) (writeList write values) values := by
  intro behind
  rw [writeList, List.append_assoc, list, natural_write short, ok_bind]
  exact times_write each behind

theorem pair_write {other : ByteReader β} {more : Bytes} {b : β} (first : Spells read bytes value)
    (second : Spells other more b) : Spells (pair read other) (bytes ++ more) (value, b) := by
  intro behind
  simp only [pair, List.append_assoc, first _, ok_bind, second _, pure_eq_ok]

end ByteReader

end TextFeatures
