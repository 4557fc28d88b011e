import CodeAtlas.Proofs.Decimal.Doubles
import CodeAtlas.Proofs.Decimal.Layout

/-!
Doubles rounded to single precision. A double inside the rounding interval of a value becomes that
value again, bit by bit, and with its sign.
-/
namespace CodeAtlas.Decimal

open Float.Model UnpackedFloat Rounding

variable {m : Nat} {q : Int} {w : ℚ}

theorem isNegative_single (bits : Nat) :
    single.isNegative bits = (bits / 2 ^ 31 % 2 == 1) := by
  rw [← Nat.shiftRight_eq_div_pow]
  rfl

theorem fits_single {bits : Nat} (finite : single.magnitude bits = .finite m q) :
    Fits single m q := by
  rw [magnitude_single] at finite
  have bounds : m < 2 ^ 24 ∧ -149 ≤ q ∧ (q = -149 ∨ 2 ^ 23 ≤ m) ∧ q + 24 ≤ 128 := by
    split at finite
    · split at finite <;> cases finite
    · split at finite <;> cases finite <;> omega
  obtain ⟨narrow, least, full, room⟩ := bounds
  exact ⟨narrow, least, full, room⟩

/-- The fields of a finite value make up its bits. -/
theorem encode_magnitude {bits : Nat} (word : bits < 2 ^ 32)
    (finite : single.magnitude bits = .finite m q) :
    single.withSign (single.isNegative bits) (single.encode (.finite m q)) = bits := by
  have least : single.leastExponent = -149 := rfl
  have sign : single.signBit = 31 := rfl
  have fraction : single.precision - 1 = 23 := rfl
  rw [magnitude_single] at finite
  rw [isNegative_single]
  simp only [Format.withSign, Format.encode, least, sign, fraction, twoTo_eq,
    Nat.shiftLeft_eq, beq_iff_eq]
  split at finite
  · split at finite <;> cases finite
  · split at finite <;> cases finite <;> split <;> split <;> omega

def roundsTo (y : Float) (m : Nat) (q : Int) : Bool :=
  match double.magnitude y.toBits.toNat with
  | .finite n e => nearest single (n * twoTo e.toNat) (twoTo (-e).toNat) = .finite m q
  | _ => false

theorem roundsTo_of_inside {y : Float} (worth : Worth y w) (fits : Fits single m q)
    (inside : Inside single m q w) : roundsTo y m q = true := by
  obtain ⟨n, e, positive, unpacked, -, rfl⟩ := worth
  rw [← ratio_eq] at inside
  have rounded : nearest single (n * twoTo e.toNat) (twoTo (-e).toNat) = .finite m q :=
    nearest_of_inside (Nat.mul_pos positive (Nat.two_pow_pos _)) (Nat.two_pow_pos _) (by decide)
      fits inside
  unfold roundsTo
  rw [(magnitude_of_unpack unpacked).1]
  exact decide_eq_true rounded

theorem toSingle_of_unpack {y : Float} {s : Sign} {n : Nat} {e : Int} {positive : 0 < n}
    (unpacked : y.toModel.unpack = .finite s n e positive)
    (rounded : nearest single (n * twoTo e.toNat) (twoTo (-e).toNat) = .finite m q) :
    toSingle y = Float32.ofBits (UInt32.ofNat
      (single.withSign (s == .negative) (single.encode (.finite m q)))) := by
  obtain ⟨magnitude, sign⟩ := magnitude_of_unpack unpacked
  have same_sign : double.isNegative y.toBits.toNat = (s == .negative) := by
    rw [Bool.eq_iff_iff, sign, beq_iff_eq]
  unfold toSingle convert
  rw [magnitude, same_sign]
  dsimp only
  rw [rounded]

theorem unpack_neg {y : Float} {n : Nat} {e : Int} {positive : 0 < n}
    (unpacked : y.toModel.unpack = .finite .positive n e positive) :
    (-y).toModel.unpack = .finite .negative n e positive := by
  obtain ⟨canonical, fits⟩ := canonical_unpack proper_double
    (b := y.toModel.toBits.toBitVec) unpacked
  change UnpackedFloat.unpack Format.binary64
    (UnpackedFloat.pack Format.binary64 y.toModel.unpack.neg) = _
  rw [unpacked]
  exact unpack_pack_finite .negative positive canonical fits

theorem toSingle_eq {x : Float32} (magnitude : single.magnitude x.toBits.toNat = .finite m q)
    {y : Float} (worth : Worth y w) (rounds : roundsTo y m q = true) :
    toSingle (if single.isNegative x.toBits.toNat then -y else y) = x := by
  obtain ⟨n, e, positive, unpacked, -, rfl⟩ := worth
  have bits := encode_magnitude x.toBits.toNat_lt magnitude
  unfold roundsTo at rounds
  rw [(magnitude_of_unpack unpacked).1] at rounds
  have rounded := of_decide_eq_true rounds
  conv_rhs => rw [← Float32.ofBits_toBits x, ← UInt32.ofNat_toNat (x := x.toBits), ← bits]
  by_cases negative : single.isNegative x.toBits.toNat = true
  · rw [if_pos negative, negative, toSingle_of_unpack (unpack_neg unpacked) rounded]
    rfl
  · rw [if_neg negative, Bool.eq_false_of_not_eq_true negative,
      toSingle_of_unpack unpacked rounded]
    rfl

end CodeAtlas.Decimal
