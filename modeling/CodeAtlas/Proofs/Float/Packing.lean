import CodeAtlas.Proofs.Float.Rounding
import Mathlib

/-!
Packing: a canonical value is unpacked as it was packed unless it is too large, and what an
operation leaves in its packed form is bounded by where the leading bit of the exact result stands.
The lemmas on the parts of a packed value are reached through the whole library only.
-/
namespace CodeAtlas.Rounding

open Float.Model UnpackedFloat

variable {f : Float.Model.Format}

def greatestExponent (f : Float.Model.Format) : Int :=
  2 ^ f.exponentBits - 2 - f.exponentBias - f.mantissaBitsWithoutImplicit

theorem exponentBits_eq (f : Float.Model.Format) :
    2 ^ f.exponentBits = 2 * (f.exponentBias + 1) := by
  obtain ⟨k, bits⟩ := Nat.exists_eq_add_one_of_ne_zero (Nat.ne_of_gt f.he)
  have positive := Nat.two_pow_pos k
  rw [Format.exponentBias, bits, Nat.add_sub_cancel, Nat.sub_add_cancel positive, Nat.pow_succ,
    Nat.mul_comm]

theorem minExponent_eq (f : Float.Model.Format) :
    f.minExponent = 1 - f.exponentBias - f.mantissaBitsWithoutImplicit := by
  unfold Format.minExponent Format.exponentBias Format.mantissaBits
  push_cast [Nat.one_le_two_pow]
  ring

theorem ne_full {f : Float.Model.Format} {field : Nat} (room : field + 1 < 2 ^ f.exponentBits) :
    BitVec.ofNat f.exponentBits field ≠ -1#_ := by
  intro same
  have value := congrArg BitVec.toNat same
  rw [BitVec.toNat_ofNat, BitVec.neg_one_eq_allOnes, BitVec.toNat_allOnes,
    Nat.mod_eq_of_lt (by omega)] at value
  omega

theorem unpack_pack_infinity (s : Sign) :
    unpack f (UnpackedFloat.pack f (.infinity s)) = .infinity s := by
  simp [UnpackedFloat.unpack, UnpackedFloat.pack, packedInfinity]

theorem toNat_implicit {k : Nat} (fraction : BitVec k) :
    (1#1 ++ fraction).toNat = 2 ^ k + fraction.toNat := by
  have joined := Nat.two_pow_add_eq_or_of_lt fraction.isLt 1
  have bit : (1#1).toNat = 1 := rfl
  rw [Nat.mul_one] at joined
  rw [BitVec.toNat_append, Nat.shiftLeft_eq, bit, Nat.one_mul, joined]

theorem unpack_packed_normal (s : Sign) {m field : Nat} (positive : 0 < m)
    (log : m.log2 = f.mantissaBitsWithoutImplicit) (some_field : 0 < field)
    (room : field + 1 < 2 ^ f.exponentBits) :
    unpack f (packComponents f s (BitVec.ofNat _ field) (BitVec.ofNat _ m)) =
      .finite s m (field - f.exponentBias - f.mantissaBitsWithoutImplicit) positive := by
  have exponent : (BitVec.ofNat f.exponentBits field).toNat = field := by
    rw [BitVec.toNat_ofNat, Nat.mod_eq_of_lt (by omega)]
  have not_empty : BitVec.ofNat f.exponentBits field ≠ 0#_ := by
    intro empty
    rw [empty, BitVec.toNat_zero] at exponent
    omega
  have implicit : (1#1 ++ BitVec.ofNat f.mantissaBitsWithoutImplicit m).toNat = m := by
    obtain ⟨low, high⟩ := (Nat.log2_eq_iff (Nat.ne_of_gt positive)).mp log
    rw [Nat.pow_succ] at high
    rw [toNat_implicit, BitVec.toNat_ofNat, Nat.mod_eq_sub_mod low, Nat.mod_eq_of_lt (by omega)]
    omega
  unfold UnpackedFloat.unpack
  simp only [unpackExponent_packComponents, unpackMantissa_packComponents,
    unpackSign_packComponents, if_neg (ne_full room), if_neg not_empty,
    implicit, exponent, Sign.ofBitVec_toBitVec]
  congr 1
  omega

theorem unpack_packed_subnormal (s : Sign) {m : Nat} (positive : 0 < m)
    (fraction : m < 2 ^ f.mantissaBitsWithoutImplicit) (room : 1 < 2 ^ f.exponentBits) :
    unpack f (packComponents f s 0#_ (BitVec.ofNat _ m)) =
      .finite s m f.minExponent positive := by
  have minimum := minExponent_eq f
  have mantissa : (BitVec.ofNat f.mantissaBitsWithoutImplicit m).toNat = m := by
    rw [BitVec.toNat_ofNat, Nat.mod_eq_of_lt fraction]
  have some_mantissa : BitVec.ofNat f.mantissaBitsWithoutImplicit m ≠ 0#_ := by
    intro zero
    rw [zero, BitVec.toNat_zero] at mantissa
    omega
  have not_full : (0#f.exponentBits) ≠ -1#_ := ne_full (by omega : 0 + 1 < 2 ^ f.exponentBits)
  unfold UnpackedFloat.unpack
  simp only [unpackExponent_packComponents, unpackMantissa_packComponents,
    unpackSign_packComponents, if_neg not_full, if_true, dif_neg some_mantissa, mantissa,
    Sign.ofBitVec_toBitVec, BitVec.toNat_zero]
  congr 1
  omega

theorem unpack_pack_finite (s : Sign) {m : Nat} {e : Int} (positive : 0 < m)
    (canonical : Canonical f m e) (fits : e ≤ greatestExponent f) :
    unpack f (UnpackedFloat.pack f (.finite s m e positive)) = .finite s m e positive := by
  obtain ⟨narrow, least, full⟩ := canonical_cases canonical
  have capacity := exponentBits_eq f
  have minimum := minExponent_eq f
  have width : f.mantissaBits = 1 + f.mantissaBitsWithoutImplicit := rfl
  unfold greatestExponent at fits
  obtain ⟨field, same⟩ : ∃ field : Nat, (field : Int) =
      e + f.exponentBias + f.mantissaBitsWithoutImplicit :=
    ⟨(e + f.exponentBias + f.mantissaBitsWithoutImplicit).toNat, by omega⟩
  have toNat : (e + f.exponentBias + f.mantissaBitsWithoutImplicit).toNat = field := by omega
  have room : field + 1 < 2 ^ f.exponentBits := by
    have cast : ((2 ^ f.exponentBits : Nat) : Int) = 2 ^ f.exponentBits := by norm_cast
    omega
  simp only [UnpackedFloat.pack, toNat, if_neg (Nat.not_le_of_lt room)]
  by_cases normal : m.log2 + 1 = f.mantissaBits
  · rw [if_pos normal, unpack_packed_normal s positive (by omega) (by omega) room]
    congr 1
    omega
  · have fraction : m < 2 ^ f.mantissaBitsWithoutImplicit :=
      (Nat.log2_lt (Nat.ne_of_gt positive)).mp (by omega)
    rw [if_neg normal, unpack_packed_subnormal s positive fraction (by omega)]
    congr 1
    omega

theorem unpack_pack_large (s : Sign) {m : Nat} {e : Int} (positive : 0 < m)
    (beyond : greatestExponent f < e) :
    unpack f (UnpackedFloat.pack f (.finite s m e positive)) = .infinity s := by
  rw [← unpack_pack_infinity (f := f) s]
  congr 1
  simp only [UnpackedFloat.pack]
  rw [if_pos]
  unfold greatestExponent at beyond
  have cast : ((2 ^ f.exponentBits : Nat) : Int) = 2 ^ f.exponentBits := by norm_cast
  omega

inductive Stored (f : Float.Model.Format) (sign : Sign) (place : Int) : UnpackedFloat → Prop where
  | zero (tiny : place ≤ f.minExponent) : Stored f sign place (.zero sign)
  | finite {m : Nat} {e : Int} (positive : 0 < m) (low : place ≤ totalExponent m e) :
      Stored f sign place (.finite sign m e positive)
  | infinite (beyond : greatestExponent f + f.mantissaBits ≤ max place f.minExponent) :
      Stored f sign place (.infinity sign)

theorem Stored.isFinite {sign : Sign} {place : Int} {x : UnpackedFloat}
    (stored : Stored f sign place x)
    (small : max place f.minExponent < greatestExponent f + f.mantissaBits) :
    x.isFinite = true := by
  cases stored with
  | zero => rfl
  | finite => rfl
  | infinite beyond => exact absurd beyond (Int.not_le.mpr small)

theorem Rounded.stored {sign : Sign} {place : Int} {x : UnpackedFloat}
    (rounded : Rounded f sign place x) (proper : f.minExponent ≤ greatestExponent f) :
    Stored f sign place (unpack f (UnpackedFloat.pack f x)) := by
  cases rounded with
  | zero tiny =>
    have zero : unpack f (UnpackedFloat.pack f (.zero sign)) = .zero sign := unpack_packedZero
    rw [zero]
    exact .zero tiny
  | @finite m e positive canonical low high =>
    by_cases fits : e ≤ greatestExponent f
    · rw [unpack_pack_finite sign positive canonical fits]
      exact .finite positive low
    · rw [unpack_pack_large sign positive (Int.not_le.mp fits)]
      obtain ⟨narrow, least, full⟩ := canonical_cases canonical
      refine .infinite ?_
      unfold totalExponent at high
      omega

theorem toNat_unpackExponent (b : BitVec f.numBits) :
    (unpackExponent b).toNat =
      b.toNat / 2 ^ f.mantissaBitsWithoutImplicit % 2 ^ f.exponentBits := by
  have some_field := f.he
  unfold unpackExponent
  rw [BitVec.toNat_cast, BitVec.extractLsb_toNat, Nat.shiftRight_eq_div_pow]
  congr 2
  omega

theorem isFinite_unpack (b : BitVec f.numBits) :
    (unpack f b).isFinite = true ↔ unpackExponent b ≠ -1#_ := by
  unfold UnpackedFloat.unpack
  dsimp only
  split
  · rename_i full
    split <;> simp [UnpackedFloat.isFinite, full]
  · rename_i room
    split
    · split <;> simp [UnpackedFloat.isFinite, room]
    · simp [UnpackedFloat.isFinite, room]

theorem unpack_finite {b : BitVec f.numBits} {s : Sign} {m : Nat} {e : Int} {positive : 0 < m}
    (finite : unpack f b = .finite s m e positive) :
    (m < 2 ^ f.mantissaBitsWithoutImplicit ∧ e = f.minExponent) ∨
      (m.log2 = f.mantissaBitsWithoutImplicit ∧ 0 < (unpackExponent b).toNat ∧
        e = (unpackExponent b).toNat - f.exponentBias - f.mantissaBitsWithoutImplicit) := by
  have minimum := minExponent_eq f
  have fraction := (unpackMantissa b).isLt
  unfold UnpackedFloat.unpack at finite
  dsimp only at finite
  split at finite
  · split at finite <;> cases finite
  · split at finite
    · rename_i none_set
      split at finite
      · cases finite
      · cases finite
        rw [none_set, BitVec.toNat_zero]
        exact .inl ⟨fraction, by omega⟩
    · rename_i some_set
      cases finite
      refine .inr ⟨?_, Nat.pos_of_ne_zero ?_, by omega⟩
      · rw [toNat_implicit, Nat.log2_eq_iff (by omega), Nat.pow_succ]
        omega
      · intro zero
        exact some_set (BitVec.eq_of_toNat_eq (by simpa using zero))

/-- Whatever was packed is canonical and within the range of the format. -/
theorem canonical_unpack (proper : f.minExponent ≤ greatestExponent f) {b : BitVec f.numBits}
    {s : Sign} {m : Nat} {e : Int} {positive : 0 < m}
    (finite : unpack f b = .finite s m e positive) : Canonical f m e ∧ e ≤ greatestExponent f := by
  have width : f.mantissaBits = 1 + f.mantissaBitsWithoutImplicit := rfl
  have minimum := minExponent_eq f
  have cast : ((2 ^ f.exponentBits : Nat) : Int) = 2 ^ f.exponentBits := by norm_cast
  have field := (unpackExponent b).isLt
  have most : (unpackExponent b).toNat ≠ 2 ^ f.exponentBits - 1 := by
    intro full
    refine (isFinite_unpack b).mp (by rw [finite]; rfl) (BitVec.eq_of_toNat_eq ?_)
    rw [full, BitVec.neg_one_eq_allOnes, BitVec.toNat_allOnes]
  unfold greatestExponent at proper ⊢
  unfold Canonical Format.targetExponent totalExponent
  rcases unpack_finite finite with ⟨fraction, least⟩ | ⟨log, some_set, exponent⟩
  · have log := (Nat.log2_lt (Nat.ne_of_gt positive)).mpr fraction
    omega
  · omega

theorem unpack_pack_unpack (proper : f.minExponent ≤ greatestExponent f) (b : BitVec f.numBits) :
    unpack f (UnpackedFloat.pack f (unpack f b)) = unpack f b := by
  cases value : unpack f b with
  | notANumber => exact unpack_packedNaN
  | infinity s => exact unpack_pack_infinity s
  | zero s => exact unpack_packedZero
  | finite s m e positive =>
    obtain ⟨canonical, fits⟩ := canonical_unpack proper value
    exact unpack_pack_finite s positive canonical fits

end CodeAtlas.Rounding
