import TextFeatures.Featurizer.Counts
import TextFeatures.Proofs.Matrix.Rows

namespace TextFeatures

-- Filling is -1, and no count comes to that as a floating point number: a count has no minus sign, and neither
-- rounding nor packing gives it one.
section Signs
open Float.Model Float.Model.UnpackedFloat

variable {format : Format} {a b : UnpackedFloat}

def Unsigned : UnpackedFloat → Prop
  | .infinity sign => sign = .positive
  | .notANumber => True
  | .zero sign => sign = .positive
  | .finite sign _ _ _ => sign = .positive

theorem unsigned_dite {condition : Prop} [Decidable condition] {yes : condition → UnpackedFloat}
    {no : ¬condition → UnpackedFloat} (unsignedYes : ∀ holds, Unsigned (yes holds))
    (unsignedNo : ∀ fails, Unsigned (no fails)) : Unsigned (dite condition yes no) := by
  by_cases holds : condition
  · rw [dif_pos holds]
    exact unsignedYes holds
  · rw [dif_neg holds]
    exact unsignedNo holds

theorem unsigned_ite {condition : Prop} [Decidable condition] (unsignedA : Unsigned a) (unsignedB : Unsigned b) :
    Unsigned (if condition then a else b) := by
  by_cases holds : condition
  · rwa [if_pos holds]
  · rwa [if_neg holds]

theorem unsigned_round {mantissa : Nat} {exponent : Int} {accuracy : Accuracy} :
    Unsigned (roundWithAccuracy format .positive mantissa exponent accuracy) :=
  unsigned_dite (fun _ => rfl) (fun _ => rfl)

theorem unsigned_mul (unsignedA : Unsigned a) (unsignedB : Unsigned b) :
    Unsigned (UnpackedFloat.mul format a b) := by
  cases a <;> cases b <;> cases unsignedA <;> cases unsignedB <;> first | exact rfl | exact trivial | exact unsigned_round

theorem unsigned_ofUInt64 {n : UInt64} : Unsigned (UnpackedFloat.ofUInt64 format n) := by
  unfold UnpackedFloat.ofUInt64 UnpackedFloat.ofNat UnpackedFloat.ofInt UnpackedFloat.normalize
  split
  · rename_i below
    rw [Int.compare_eq_lt] at below
    omega
  · rfl
  · exact unsigned_round

theorem unsigned_ofScientific {n : Nat} : Unsigned (UnpackedFloat.ofScientific format n 0) := by
  unfold UnpackedFloat.ofScientific
  refine unsigned_dite (fun _ => rfl) fun nonzero => unsigned_ite rfl (unsigned_ite rfl ?_)
  rw [if_pos (Int.le_refl 0)]
  exact unsigned_round

-- The sign stands in a bit of its own, so that it outlasts the packing of a number.

theorem sign_packComponents {exponent : BitVec format.exponentBits}
    {mantissa : BitVec format.mantissaBitsWithoutImplicit} :
    unpackSign (packComponents format .positive exponent mantissa) = 0#1 := by
  refine BitVec.eq_of_getLsbD_eq fun i inside => ?_
  obtain rfl : i = 0 := by omega
  unfold unpackSign packComponents
  simp [BitVec.getLsbD_append, BitVec.getElem_append, Sign.toBitVec]

theorem sign_pack (unsigned : Unsigned a) : unpackSign (UnpackedFloat.pack format a) = 0#1 := by
  cases a with
  | notANumber => exact sign_packComponents
  | infinity sign =>
    obtain rfl : sign = .positive := unsigned
    exact sign_packComponents
  | zero sign =>
    obtain rfl : sign = .positive := unsigned
    exact sign_packComponents
  | finite sign mantissa exponent positive =>
    obtain rfl : sign = .positive := unsigned
    unfold UnpackedFloat.pack
    dsimp only
    split
    · exact sign_packComponents
    · split <;> exact sign_packComponents

theorem unsigned_unpack {bits : BitVec format.numBits} (bare : unpackSign bits = 0#1) :
    Unsigned (UnpackedFloat.unpack format bits) := by
  have positive : Sign.ofBitVec (unpackSign bits) = .positive := by
    rw [bare]
    rfl
  exact unsigned_ite (unsigned_ite positive trivial)
    (unsigned_ite (unsigned_dite (fun _ => positive) fun _ => positive) positive)

theorem unsigned_pack (unsigned : Unsigned a) : Unsigned (Float.Model.pack a).unpack :=
  unsigned_unpack (sign_pack unsigned)

theorem unsigned_ofNat (n : Nat) : Unsigned (Float.ofNat n).toModel.unpack := by
  unfold Float.ofNat OfScientific.ofScientific instOfScientificFloat Float.ofScientific
  dsimp only
  split
  · have one : @unpackSign Format.binary64 (0x3FF0000000000000 : UInt64).toBitVec = 0#1 := by decide
    exact unsigned_pack (unsigned_mul (unsigned_pack unsigned_ofUInt64) (unsigned_unpack one))
  · exact unsigned_pack unsigned_ofScientific

theorem ofNat_beq_negative (n : Nat) : (Float.ofNat n == -1) = false := by
  obtain ⟨mantissa, exponent, positive, negative⟩ : ∃ mantissa exponent positive,
      (-1 : Float).toModel.unpack = .finite .negative mantissa exponent positive := ⟨_, _, _, rfl⟩
  have unsigned := unsigned_ofNat n
  change ((Float.ofNat n).toModel.unpack.compare (-1 : Float).toModel.unpack == some .eq) = false
  rw [negative]
  cases number : (Float.ofNat n).toModel.unpack with
  | notANumber => rfl
  | infinity sign =>
    rw [number] at unsigned
    obtain rfl : sign = .positive := unsigned
    rfl
  | zero sign => rfl
  | finite sign =>
    rw [number] at unsigned
    obtain rfl : sign = .positive := unsigned
    rfl

end Signs

namespace DenseMatrix

variable {height : Nat} {counts : DenseMatrix Nat}

def ofCounts (counts : DenseMatrix Nat) : DenseMatrix Float := (counts.map Int.ofNat).map Float.ofInt

def isFilling (row : List Float) : Bool := row.all (· == -1)

def withoutFilling (matrix : DenseMatrix Float) : DenseMatrix Float :=
  { matrix with rows := matrix.rows.filter fun row => !isFilling row }

theorem isFilling_replicate (width : Nat) : isFilling (List.replicate width (-1)) = true := by
  have same : ((-1 : Float) == -1) = true := by decide +kernel
  simp [isFilling, List.all_replicate, same]

theorem isFilling_counts {row : List Nat} (wide : row ≠ []) :
    isFilling ((row.map Int.ofNat).map Float.ofInt) = false := by
  obtain ⟨n, rest, rfl⟩ := List.exists_cons_of_ne_nil wide
  have first : (Float.ofInt (n : Int) == -1) = false := ofNat_beq_negative n
  simp [isFilling, first]

-- Filling is never taken for counts, nor counts for filling.
theorem withoutFilling_pad (wide : ∀ row ∈ counts.rows, row ≠ []) :
    ((ofCounts counts).pad (-1) height).withoutFilling = ofCounts counts := by
  have kept : (ofCounts counts).rows.filter (fun row => !isFilling row) = (ofCounts counts).rows := by
    refine List.filter_eq_self.mpr fun row member => ?_
    obtain ⟨_, among, rfl⟩ := List.mem_map.mp member
    obtain ⟨row, there, rfl⟩ := List.mem_map.mp among
    rw [isFilling_counts (wide row there)]
    rfl
  simp only [withoutFilling, pad, List.filter_append, kept, List.filter_replicate, isFilling_replicate]
  simp

theorem rowCount_pad {α : Type} {matrix : DenseMatrix α} {filler : α} (within : matrix.rowCount ≤ height) :
    (matrix.pad filler height).rowCount = height := by
  have count : (matrix.pad filler height).rowCount = matrix.rowCount + (height - matrix.rowCount) := by
    simp [pad, rowCount]
  omega

end DenseMatrix

namespace SparseMatrix

theorem denseRow_ne_nil {width : Nat} (wide : 0 < width) (row : List (Nat × Nat)) : denseRow width row ≠ [] := by
  rw [← List.length_pos_iff]
  simpa [denseRow] using wide

variable {α β : Type} [OfNat α 0] [OfNat β 0] {f : α → β} {entries : List (Nat × α)}

theorem valueAt_map (zero : f 0 = 0) (column : Nat) :
    valueAt (entries.map (Prod.map id f)) column = f (valueAt entries column) := by
  induction entries with
  | nil => exact zero.symm
  | cons entry rest ih =>
    obtain ⟨place, value⟩ := entry
    unfold valueAt at ih ⊢
    simp only [List.map_cons, Prod.map_apply, id_eq, List.lookup_cons]
    split
    · rfl
    · exact ih

theorem denseRow_map (zero : f 0 = 0) (width : Nat) :
    denseRow width (entries.map (Prod.map id f)) = (denseRow width entries).map f := by
  simp only [denseRow, List.map_map]
  exact List.map_congr_left fun column _ => valueAt_map zero column

theorem toDense_counts {width : Nat} {stored : List (List (Nat × Nat))} :
    (((ofStored width stored).map Int.ofNat).map Float.ofInt).toDense =
      .ok (.ofCounts ⟨width, stored.map (denseRow width)⟩) := by
  have zero : Float.ofInt 0 = 0 := rfl
  have row (entries : List (Nat × Nat)) :
      denseRow width ((entries.map (Prod.map id Int.ofNat)).map (Prod.map id Float.ofInt)) =
        ((denseRow width entries).map Int.ofNat).map Float.ofInt := by
    rw [denseRow_map zero, denseRow_map (f := Int.ofNat) rfl]
  simp only [map_ofStored, toDense_ofStored, List.map_map, DenseMatrix.ofCounts, DenseMatrix.map]
  exact congrArg Except.ok (congrArg (DenseMatrix.mk width) (List.map_congr_left fun entries _ => row entries))

end SparseMatrix

end TextFeatures
