import CodeAtlas.Proofs.Decimal.Nearest
import CodeAtlas.Proofs.Decimal.Product
import CodeAtlas.Proofs.Float.Nearest
import CodeAtlas.Proofs.Float.Order

/-!
Doubles by the fields of their bits, and what comes of a short natural number that is multiplied
with or divided by a power of ten: a double that is off by a tiny share of the exact value, or is
that value if a double can be.
-/
namespace CodeAtlas.Decimal

open Float.Model UnpackedFloat Rounding

variable {m n : Nat} {q e : Int}

theorem ratio_eq (m : Nat) (q : Int) :
    ((m * twoTo q.toNat : ℕ) : ℚ) / (twoTo (-q).toNat : ℕ) = m * 2 ^ q := by
  simp only [twoTo_eq]
  push_cast
  rcases le_total 0 q with above | below
  · obtain ⟨n, rfl⟩ := Int.eq_ofNat_of_zero_le above
    simp
  · obtain ⟨n, rfl⟩ := Int.exists_eq_neg_ofNat below
    simp [zpow_neg, div_eq_mul_inv]

/-! Bits -/

theorem magnitude_double (bits : Nat) :
    double.magnitude bits =
      if bits / 2 ^ 52 % 2 ^ 11 = 2047 then
        if bits % 2 ^ 52 = 0 then .infinite else .notANumber
      else if bits / 2 ^ 52 % 2 ^ 11 = 0 then .finite (bits % 2 ^ 52) (-1074)
      else .finite (bits % 2 ^ 52 + 2 ^ 52) (-1074 + (bits / 2 ^ 52 % 2 ^ 11 - 1 : Nat)) := by
  rw [← Nat.shiftRight_eq_div_pow]
  rfl

theorem isNegative_double (bits : Nat) :
    double.isNegative bits = (bits / 2 ^ 63 % 2 == 1) := by
  rw [← Nat.shiftRight_eq_div_pow]
  rfl

theorem fields_double (b : BitVec Format.binary64.numBits) :
    (unpackSign b).toNat = b.toNat / 2 ^ 63 % 2 ∧
      (unpackExponent b).toNat = b.toNat / 2 ^ 52 % 2 ^ 11 ∧
      (unpackMantissa b).toNat = b.toNat % 2 ^ 52 :=
  ⟨toNat_unpackSign b, toNat_unpackExponent b, toNat_unpackMantissa b⟩

theorem bias_double : (Format.binary64.exponentBias : Int) = 1023 := by decide

theorem magnitude_of_unpack {x : Float} {s : Sign} {positive : 0 < m}
    (finite : x.toModel.unpack = .finite s m e positive) :
    double.magnitude x.toBits.toNat = .finite m e ∧
      (double.isNegative x.toBits.toNat = true ↔ s = .negative) := by
  obtain ⟨sign, field, fraction⟩ := fields_double x.toModel.toBits.toBitVec
  have bits : x.toBits.toNat = x.toModel.toBits.toBitVec.toNat := rfl
  unfold Float.Model.unpack UnpackedFloat.unpack at finite
  dsimp only at finite
  rw [bits, magnitude_double, isNegative_double]
  generalize x.toModel.toBits.toBitVec = b at *
  have signs : (b.toNat / 2 ^ 63 % 2 == 1) = true ↔
      Sign.ofBitVec (@unpackSign Format.binary64 b) = .negative := by
    rw [← sign]
    generalize @unpackSign Format.binary64 b = bit
    rcases BitVec.eq_zero_or_eq_one bit with rfl | rfl <;> simp [Sign.ofBitVec]
  rw [← field, ← fraction]
  rw [bias_double] at finite
  split at finite
  · split at finite <;> cases finite
  · rename_i some_room
    have room : (@unpackExponent Format.binary64 b).toNat ≠ 2047 := fun full =>
      some_room (BitVec.eq_of_toNat_eq full)
    rw [if_neg room]
    split at finite
    · rename_i none_set
      split at finite
      · cases finite
      · cases finite
        refine ⟨?_, signs⟩
        rw [if_pos (by rw [none_set]; rfl), none_set]
        rfl
    · rename_i some_set
      have set : (@unpackExponent Format.binary64 b).toNat ≠ 0 := fun zero =>
        some_set (BitVec.eq_of_toNat_eq zero)
      cases finite
      refine ⟨?_, signs⟩
      rw [if_neg set, toNat_implicit]
      congr 1
      · exact Nat.add_comm _ _
      · omega

theorem unpack_encode (implicit : 2 ^ 52 ≤ m) (narrow : m < 2 ^ 53) (least : -1074 ≤ q)
    (most : q ≤ 971) :
    ∃ positive, UnpackedFloat.unpack Format.binary64
      (UInt64.ofNat (double.encode (.finite m q))).toBitVec = .finite .positive m q positive := by
  have encoded : double.encode (.finite m q) = ((q + 1075).toNat) * 2 ^ 52 + (m - 2 ^ 52) := by
    have width : twoTo (double.precision - 1) = 2 ^ 52 := rfl
    have least : double.leastExponent = -1074 := rfl
    simp only [Format.encode, width, least]
    rw [if_neg (by omega), Nat.shiftLeft_eq]
    congr 2
    omega
  obtain ⟨b, same⟩ : ∃ b : BitVec Format.binary64.numBits,
      b = (UInt64.ofNat (double.encode (.finite m q))).toBitVec := ⟨_, rfl⟩
  have bits : b.toNat = ((q + 1075).toNat * 2 ^ 52 + (m - 2 ^ 52)) % 2 ^ 64 := by
    rw [same, ← encoded]
    rfl
  rw [← same]
  obtain ⟨sign, field, fraction⟩ := fields_double b
  have exponent : (@unpackExponent Format.binary64 b).toNat = (q + 1075).toNat := by omega
  have mantissa : (@unpackMantissa Format.binary64 b).toNat = m - 2 ^ 52 := by omega
  have positive : @unpackSign Format.binary64 b = 0#1 := BitVec.eq_of_toNat_eq (by
    change _ = 0
    omega)
  refine ⟨by omega, ?_⟩
  unfold UnpackedFloat.unpack
  dsimp only
  rw [if_neg, if_neg]
  · rw [bias_double, positive]
    congr 1
    · rw [toNat_implicit, mantissa]
      change 2 ^ 52 + (m - 2 ^ 52) = m
      omega
    · rw [exponent]
      omega
  · intro empty
    rw [empty] at exponent
    change 0 = _ at exponent
    omega
  · intro full
    rw [full] at exponent
    change 2047 = _ at exponent
    omega

/-! Values of doubles -/

def Worth (x : Float) (v : ℚ) : Prop :=
  ∃ m e positive, x.toModel.unpack = .finite .positive m e positive ∧ m.log2 + 1 = 53 ∧
    (m : ℚ) * 2 ^ e = v

/-- What an operation gives, once it is packed. -/
theorem worth_of_near {x : Float} {u : UnpackedFloat} {v : ℚ} {t : Int}
    (stored : x.toModel.unpack =
      UnpackedFloat.unpack Format.binary64 (UnpackedFloat.pack Format.binary64 u))
    (near : Near Format.binary64 .positive v t u) (low : -1074 ≤ t) (high : t < 971) :
    ∃ w, Worth x w ∧ |w - v| ≤ v / 2 ^ 53 ∧
      ∀ (k : Nat) (j : Int), k < 2 ^ 53 → v = k * 2 ^ j → w = v := by
  obtain ⟨m, e, positive, rfl, ⟨log, least, most⟩, close, exact_value⟩ := near.value
  rw [mantissaBits_double] at log close exact_value
  have canonical : Canonical Format.binary64 m e := by
    have minimum := minExponent_double
    have width := mantissaBits_double
    unfold Canonical Format.targetExponent totalExponent
    omega
  rw [unpack_pack_finite .positive positive canonical
    (by rw [greatestExponent_double]; omega)] at stored
  exact ⟨_, ⟨m, e, positive, stored, log, rfl⟩, close, exact_value⟩

theorem worth_mul {x y : Float} {v w : ℚ} (first : Worth x v) (second : Worth y w)
    (low : 2 ^ (-250 : Int) ≤ v * w) (high : v * w < 2 ^ (250 : Int)) :
    ∃ u, Worth (x * y) u ∧ |u - v * w| ≤ v * w / 2 ^ 53 ∧
      ∀ (k : Nat) (j : Int), k < 2 ^ 53 → v * w = k * 2 ^ j → u = v * w := by
  obtain ⟨m₁, e₁, positive₁, left, log₁, rfl⟩ := first
  obtain ⟨m₂, e₂, positive₂, right, log₂, rfl⟩ := second
  have product : ((m₁ * m₂ : ℕ) + 0 : ℚ) * 2 ^ (e₁ + e₂) = m₁ * 2 ^ e₁ * (m₂ * 2 ^ e₂) := by
    rw [zpow_add₀ (by norm_num)]
    push_cast
    ring
  obtain ⟨least, most⟩ := worth_bounds (Nat.mul_pos positive₁ positive₂) (e₁ + e₂)
    (le_refl (0 : ℚ)) (by norm_num)
  rw [product] at least most
  have upto := place_lt least high
  have onwards := place_lt low most
  have place : totalExponent (m₁ * m₂) (e₁ + e₂) = (m₁ * m₂).log2 + 1 + (e₁ + e₂) := rfl
  have near := near_mul (f := Format.binary64) .positive .positive e₁ e₂ positive₁ positive₂
    (by rw [mantissaBits_double]; exact log₁)
    (by rw [mantissaBits_double, minExponent_double]; omega)
  refine worth_of_near ?_ near ?_ ?_
  · change UnpackedFloat.unpack Format.binary64 (UnpackedFloat.pack Format.binary64
      (UnpackedFloat.mul Format.binary64 x.toModel.unpack y.toModel.unpack)) = _
    rw [left, right]
  · rw [mantissaBits_double]
    omega
  · rw [mantissaBits_double]
    omega

theorem worth_div {x y : Float} {v w : ℚ} (first : Worth x v) (second : Worth y w)
    (low : 2 ^ (-250 : Int) ≤ v / w) (high : v / w < 2 ^ (250 : Int)) :
    ∃ u, Worth (x / y) u ∧ |u - v / w| ≤ v / w / 2 ^ 53 ∧
      ∀ (k : Nat) (j : Int), k < 2 ^ 53 → v / w = k * 2 ^ j → u = v / w := by
  obtain ⟨m₁, e₁, positive₁, left, log₁, rfl⟩ := first
  obtain ⟨m₂, e₂, positive₂, right, log₂, rfl⟩ := second
  have units : (0 : ℚ) < 2 ^ (e₁ - e₂) := by positivity
  have quotient : (m₁ * 2 ^ e₁ : ℚ) / (m₂ * 2 ^ e₂) = m₁ / m₂ * 2 ^ (e₁ - e₂) := by
    rw [zpow_sub₀ (by norm_num)]
    field_simp
  obtain ⟨least, most⟩ := log2_ratio positive₁ positive₂
  rw [quotient] at low high
  have upto : (m₁.log2 : Int) - m₂.log2 - 1 + (e₁ - e₂) < 250 := by
    refine place_lt ?_ high
    rw [zpow_add₀ (by norm_num)]
    exact mul_le_mul_of_nonneg_right least units.le
  have onwards : -250 < (m₁.log2 : Int) - m₂.log2 + 1 + (e₁ - e₂) := by
    refine place_lt low ?_
    rw [zpow_add₀ (by norm_num)]
    exact mul_lt_mul_of_pos_right most units
  obtain ⟨t, small, near⟩ := near_div (f := Format.binary64) .positive .positive e₁ e₂ positive₁
    positive₂ (by rw [mantissaBits_double]; exact log₁) (by rw [mantissaBits_double]; exact log₂)
    (by rw [mantissaBits_double, minExponent_double]; omega)
  have large := near.high
  rw [mantissaBits_double, quotient] at large
  have reached : -250 < t + 53 := place_lt low large
  refine worth_of_near ?_ near (by omega) (by omega)
  change UnpackedFloat.unpack Format.binary64 (UnpackedFloat.pack Format.binary64
    (UnpackedFloat.div Format.binary64 x.toModel.unpack y.toModel.unpack)) = _
  rw [left, right]

/-! Decimals as doubles -/

theorem unpack_doubleOfNat (n : Nat) : (doubleOfNat n).toModel.unpack =
    UnpackedFloat.unpack Format.binary64
      (UInt64.ofNat (double.encode (nearest double n 1))).toBitVec :=
  unpack_pack_unpack proper_double _

theorem worth_of_nearest {n m : Nat} {q : Int} (found : nearest double n 1 = .finite m q)
    (implicit : 2 ^ 52 ≤ m) (narrow : m < 2 ^ 53) (least : -1074 ≤ q) (most : q ≤ 971) :
    Worth (doubleOfNat n) (m * 2 ^ q) := by
  obtain ⟨positive, unpacked⟩ := unpack_encode implicit narrow least most
  refine ⟨m, q, positive, ?_, ?_, rfl⟩
  · rw [unpack_doubleOfNat, found, unpacked]
  · rw [(Nat.log2_eq_iff (by omega)).mpr ⟨implicit, narrow⟩]

theorem worth_doubleOfNat {n : Nat} (positive : 0 < n) (short : n < 2 ^ 53) :
    Worth (doubleOfNat n) n := by
  have log := (Nat.log2_lt (Nat.ne_of_gt positive)).mpr short
  have low := Nat.log2_self_le (Nat.ne_of_gt positive)
  have high : n < 2 ^ (n.log2 + 1) := Nat.lt_log2_self
  have width : 52 - n.log2 + n.log2 = 52 := by omega
  have implicit : 2 ^ 52 ≤ n * 2 ^ (52 - n.log2) := by
    calc 2 ^ 52 = 2 ^ n.log2 * 2 ^ (52 - n.log2) := by rw [← Nat.pow_add]; congr 1; omega
      _ ≤ n * 2 ^ (52 - n.log2) := Nat.mul_le_mul_right _ low
  have narrow : n * 2 ^ (52 - n.log2) < 2 ^ 53 := by
    calc n * 2 ^ (52 - n.log2) < 2 ^ (n.log2 + 1) * 2 ^ (52 - n.log2) :=
          Nat.mul_lt_mul_of_pos_right high (Nat.two_pow_pos _)
      _ = 2 ^ 53 := by rw [← Nat.pow_add]; congr 1; omega
  have value : ((n * 2 ^ (52 - n.log2) : ℕ) : ℚ) * 2 ^ ((n.log2 : Int) - 52) = n := by
    obtain ⟨k, shift⟩ : ∃ k, 52 - n.log2 = k := ⟨_, rfl⟩
    have exponent : (n.log2 : Int) - 52 = -(k : Int) := by omega
    rw [shift, exponent, zpow_neg, zpow_natCast]
    push_cast
    field_simp
  have gap : (0 : ℚ) < gapBelow double (n * 2 ^ (52 - n.log2)) ((n.log2 : Int) - 52) := by
    unfold gapBelow
    split <;> norm_num
  have unit : (0 : ℚ) < 2 ^ ((n.log2 : Int) - 52) := by positivity
  have fits : Fits double (n * 2 ^ (52 - n.log2)) ((n.log2 : Int) - 52) := by
    refine ⟨narrow, ?_, .inr implicit, ?_⟩
    · change (-1074 : Int) ≤ _
      omega
    · change _ + (53 : Int) ≤ 1024
      omega
  have inside : Inside double (n * 2 ^ (52 - n.log2)) ((n.log2 : Int) - 52)
      ((n : ℚ) / (1 : ℕ)) := by
    rw [Nat.cast_one, div_one]
    have low : ((n * 2 ^ (52 - n.log2) : ℕ) -
        gapBelow double (n * 2 ^ (52 - n.log2)) ((n.log2 : Int) - 52)) *
          2 ^ ((n.log2 : Int) - 52) < (n : ℚ) := by nlinarith
    have high : (n : ℚ) < ((n * 2 ^ (52 - n.log2) : ℕ) + 1 / 2) * 2 ^ ((n.log2 : Int) - 52) := by
      nlinarith
    exact ⟨low.le, high.le, fun _ => ⟨low, high⟩⟩
  have found := nearest_of_inside positive (by decide) (by decide) fits inside
  have worth := worth_of_nearest found implicit narrow (by omega) (by omega)
  rwa [value] at worth

def powerClose (k : Nat) : Bool :=
  match nearest double (tenTo k) 1 with
  | .finite m q =>
    let scale := twoTo (-q).toNat
    let off : Int := (m * twoTo q.toNat : Nat) - (tenTo k * scale : Nat)
    2 ^ 52 ≤ m && m < 2 ^ 53 && -1074 ≤ q && q ≤ 971 && off.natAbs * 2 ^ 53 ≤ tenTo k * scale &&
      (22 < k || off = 0)
  | _ => false

theorem powerClose_small : ∀ k < 50, powerClose k = true := by decide +kernel

theorem worth_powerOfTen {k : Nat} (small : k < 50) :
    ∃ p, Worth (Json.powerOfTen k) p ∧ |p - 10 ^ k| ≤ 10 ^ k / 2 ^ 53 ∧ (k ≤ 22 → p = 10 ^ k) := by
  have close := powerClose_small k small
  unfold powerClose at close
  cases found : nearest double (tenTo k) 1 with
  | infinite => simp [found] at close
  | notANumber => simp [found] at close
  | finite m q =>
    simp only [found, Bool.and_eq_true, Bool.or_eq_true, decide_eq_true_eq] at close
    obtain ⟨⟨⟨⟨⟨implicit, narrow⟩, least⟩, most⟩, near⟩, exactly⟩ := close
    have scale : (0 : ℚ) < (twoTo (-q).toNat : ℕ) := by
      exact_mod_cast Nat.two_pow_pos (-q).toNat
    have ten := tenTo_cast k
    have difference : (m : ℚ) * 2 ^ q - 10 ^ k =
        ((m * twoTo q.toNat : ℕ) - (tenTo k * twoTo (-q).toNat : ℕ) : ℤ) /
          (twoTo (-q).toNat : ℕ) := by
      rw [← ratio_eq, eq_div_iff scale.ne', sub_mul, div_mul_cancel₀ _ scale.ne']
      push_cast
      rw [ten]
    refine ⟨_, worth_of_nearest found implicit narrow least most, ?_, ?_⟩
    · have bound : (|((m * twoTo q.toNat : ℕ) - (tenTo k * twoTo (-q).toNat : ℕ) : ℤ)| : ℚ) *
          2 ^ 53 ≤ 10 ^ k * (twoTo (-q).toNat : ℕ) := by
        rw [← ten, ← Int.cast_abs, Int.abs_eq_natAbs]
        exact_mod_cast near
      rw [difference, abs_div, abs_of_pos scale, div_le_div_iff₀ scale (by norm_num)]
      exact bound
    · intro short
      have same := exactly.resolve_left (by omega)
      rw [same, Int.cast_zero, zero_div] at difference
      linarith

/-! A decimal with a short significand -/

theorem twice_close {v u w : ℚ} (positive : 0 < v) (first : |u - v| ≤ v / 2 ^ 52)
    (second : |w - u| ≤ u / 2 ^ 53) : |w - v| ≤ v / 2 ^ 51 := by
  have upto : u ≤ 2 * v := by
    have := (abs_le.mp first).2
    linarith [show v / 2 ^ 52 ≤ v by apply div_le_self positive.le; norm_num]
  calc |w - v| = |(w - u) + (u - v)| := by rw [sub_add_sub_cancel]
    _ ≤ |w - u| + |u - v| := abs_add_le _ _
    _ ≤ u / 2 ^ 53 + v / 2 ^ 52 := add_le_add second first
    _ ≤ v / 2 ^ 51 := by linarith

theorem quotient_close {d ten p : ℚ} (some_digit : 0 < d) (some_power : 0 < ten)
    (close : |p - ten| ≤ ten / 2 ^ 53) : 0 < p ∧ |d / p - d / ten| ≤ d / ten / 2 ^ 52 := by
  obtain ⟨low, high⟩ := abs_le.mp close
  have half : ten / 2 ≤ p := by linarith
  have positive : 0 < p := by linarith
  have value : 0 < d / ten := by positivity
  refine ⟨positive, ?_⟩
  have difference : d / p - d / ten = d / ten * ((ten - p) / p) := by field_simp
  have share : |(ten - p) / p| ≤ 1 / 2 ^ 52 := by
    rw [abs_div, abs_of_pos positive, div_le_iff₀ positive, abs_sub_comm]
    linarith
  rw [difference, abs_mul, abs_of_pos value, div_eq_mul_one_div _ (2 ^ 52)]
  exact mul_le_mul_of_nonneg_left share value.le

theorem moderate_product {d : Nat} {p : ℚ} (positive : 0 < d) (short : d < 2 ^ 53)
    (low : 1 / 2 ≤ p) (high : p ≤ 2 * 10 ^ 50) :
    (2 : ℚ) ^ (-250 : Int) ≤ d * p ∧ d * p < 2 ^ (250 : Int) := by
  have digit : (1 : ℚ) ≤ d := by exact_mod_cast positive
  have narrow : (d : ℚ) < 2 ^ 53 := by exact_mod_cast short
  constructor
  · calc (2 : ℚ) ^ (-250 : Int) ≤ 1 * (1 / 2) := by norm_num
      _ ≤ d * p := by gcongr
  · calc (d : ℚ) * p ≤ 2 ^ 53 * (2 * 10 ^ 50) := by gcongr
      _ < 2 ^ (250 : Int) := by norm_num

theorem moderate_quotient {d : Nat} {p : ℚ} (positive : 0 < d) (short : d < 2 ^ 53)
    (low : 1 / 2 ≤ p) (high : p ≤ 2 * 10 ^ 50) :
    (2 : ℚ) ^ (-250 : Int) ≤ d / p ∧ d / p < 2 ^ (250 : Int) := by
  have digit : (1 : ℚ) ≤ d := by exact_mod_cast positive
  have narrow : (d : ℚ) < 2 ^ 53 := by exact_mod_cast short
  constructor
  · calc (2 : ℚ) ^ (-250 : Int) ≤ 1 / (2 * 10 ^ 50) := by norm_num
      _ ≤ d / p := by gcongr
  · calc (d : ℚ) / p ≤ 2 ^ 53 / (1 / 2) := by gcongr
      _ < 2 ^ (250 : Int) := by norm_num

theorem worth_finite {x : Float} {v : ℚ} (worth : Worth x v) : x.isInf = false := by
  obtain ⟨m, e, positive, unpacked, -⟩ := worth
  change x.toModel.unpack.isInf = false
  rw [unpacked]
  rfl

/-- The double read for a decimal: off by a tiny share, and not at all if the power of ten and the
decimal are doubles. -/
theorem worth_scaled {d : Nat} {e : Int} (positive : 0 < d) (short : d < 2 ^ 53)
    (small : e.natAbs < 50) :
    ∃ y w, Json.scaled? 8 (doubleOfNat d) e = some y ∧ Worth y w ∧
      |w - d * 10 ^ e| ≤ d * 10 ^ e / 2 ^ 51 ∧
      ∀ (k : Nat) (j : Int), e.natAbs ≤ 22 → k < 2 ^ 53 → (d : ℚ) * 10 ^ e = k * 2 ^ j →
        w = d * 10 ^ e := by
  have digit : (0 : ℚ) < d := by exact_mod_cast positive
  have read := worth_doubleOfNat positive short
  obtain ⟨p, worth, close, exactly⟩ := worth_powerOfTen small
  have some_power : (1 : ℚ) ≤ 10 ^ e.natAbs := one_le_pow₀ (by norm_num)
  have power : (10 : ℚ) ^ e.natAbs ≤ 10 ^ 50 := pow_le_pow_right₀ (by norm_num) (by omega)
  obtain ⟨at_least, at_most⟩ := abs_le.mp close
  have low : 1 / 2 ≤ p := by linarith
  have high : p ≤ 2 * 10 ^ 50 := by linarith
  unfold Json.scaled?
  rw [if_pos (by omega)]
  -- A product or a quotient of two doubles, so it is rounded twice at most.
  by_cases above : 0 ≤ e
  · obtain ⟨k, rfl⟩ := Int.eq_ofNat_of_zero_le above
    simp only [Int.natAbs_natCast, zpow_natCast] at *
    obtain ⟨least, most⟩ := moderate_product positive short low high
    obtain ⟨w, product, rounded, kept⟩ := worth_mul read worth least most
    refine ⟨_, w, ?_, product, ?_, ?_⟩
    · rw [if_pos above, Int.toNat_natCast]
      rw [worth_finite product]
      rfl
    · refine twice_close (u := d * p) (by positivity) ?_ rounded
      rw [← mul_sub, abs_mul, abs_of_pos digit, mul_div_assoc]
      exact mul_le_mul_of_nonneg_left (by linarith) digit.le
    · intro i j direct narrow same
      rw [← exactly direct] at same ⊢
      exact kept i j narrow same
  · obtain ⟨k, rfl⟩ := Int.exists_eq_neg_ofNat (Int.le_of_not_le above)
    simp only [Int.natAbs_neg, Int.natAbs_natCast, zpow_neg, zpow_natCast, ← div_eq_mul_inv] at *
    obtain ⟨least, most⟩ := moderate_quotient positive short low high
    obtain ⟨w, quotient, rounded, kept⟩ := worth_div read worth least most
    obtain ⟨-, near⟩ := quotient_close digit (by linarith) close
    refine ⟨_, w, ?_, quotient, twice_close (by positivity) near rounded, ?_⟩
    · rw [if_neg above, Int.neg_neg, Int.toNat_natCast]
    · intro i j direct narrow same
      rw [← exactly direct] at same ⊢
      exact kept i j narrow same

end CodeAtlas.Decimal
