import CodeAtlas.Json.Reader
import CodeAtlas.Proofs.Float.Operations

/-!
Products in double precision that cannot overflow. The bounds are coarse: what decimal texts give
rise to stays far below the largest double.
-/
namespace CodeAtlas.Decimal

open Float.Model UnpackedFloat Rounding

def Below (place : Int) : UnpackedFloat → Prop
  | .zero _ => True
  | .finite _ m e _ => totalExponent m e ≤ place
  | .infinity _ | .notANumber => False

theorem below_cases {place : Int} {x : UnpackedFloat} (below : Below place x) :
    (∃ s, x = .zero s) ∨
      ∃ s m e positive, x = .finite s m e positive ∧ totalExponent m e ≤ place := by
  cases x with
  | zero s => exact .inl ⟨s, rfl⟩
  | finite s m e positive => exact .inr ⟨s, m, e, positive, rfl, below⟩
  | infinity => exact below.elim
  | notANumber => exact below.elim

section Format

theorem minExponent_double : Format.binary64.minExponent = -1074 := by decide

theorem greatestExponent_double : greatestExponent Format.binary64 = 971 := by decide

theorem mantissaBits_double : Format.binary64.mantissaBits = 53 := by decide

theorem proper_double : Format.binary64.minExponent ≤ greatestExponent Format.binary64 := by
  rw [minExponent_double, greatestExponent_double]
  decide

end Format

theorem mul_finite {a b : Float} {p q : Int} (first : Below p a.toModel.unpack)
    (second : Below q b.toModel.unpack) (room : p + q < 1024) : (a * b).isFinite = true := by
  have zero : ∀ s, (UnpackedFloat.unpack Format.binary64
      (UnpackedFloat.pack Format.binary64 (.zero s))).isFinite = true := by
    intro s
    change (UnpackedFloat.unpack Format.binary64 (packedZero Format.binary64 s)).isFinite = true
    rw [unpack_packedZero]
    rfl
  change (UnpackedFloat.unpack Format.binary64 (UnpackedFloat.pack Format.binary64
    (UnpackedFloat.mul Format.binary64 a.toModel.unpack b.toModel.unpack))).isFinite = true
  rcases below_cases first with ⟨s, left⟩ | ⟨s, m, e, positive, left, low⟩ <;>
    rcases below_cases second with ⟨s', right⟩ | ⟨s', n, k, positive', right, low'⟩ <;>
    rw [left, right]
  · exact zero _
  · exact zero _
  · exact zero _
  · obtain ⟨place, -, most, rounded⟩ := rounded_mul s s' positive positive'
      (canonical_unpack proper_double left).1 (canonical_unpack proper_double right).1
    apply (rounded.stored proper_double).isFinite
    rw [greatestExponent_double, mantissaBits_double, minExponent_double]
    omega

theorem not_infinite {x : Float} (finite : x.isFinite = true) : x.isInf = false := by
  change x.toModel.unpack.isFinite = true at finite
  change x.toModel.unpack.isInf = false
  cases value : x.toModel.unpack with
  | infinity => cases value ▸ finite
  | _ => rfl

/-! Natural numbers as doubles -/

section Naturals

theorem roundDiv_le (n d : Nat) : roundDiv n d ≤ n / d + 1 := by
  unfold roundDiv
  dsimp only
  split
  · omega
  · split
    · omega
    · split <;> omega

theorem exponentFor_nat {n : Nat} :
    (n.log2 : Int) - 53 ≤ exponentFor double n 1 ∧ exponentFor double n 1 ≤ n.log2 - 52 := by
  have one : Nat.log2 1 = 0 := by decide
  simp only [exponentFor, one, double]
  split <;> omega

theorem scaled_lt {n : Nat} {q : Int} (least : (n.log2 : Int) - 53 ≤ q) :
    (scaleDown n 1 q).1 / (scaleDown n 1 q).2 < 2 ^ 54 := by
  have top : n < 2 ^ (n.log2 + 1) := Nat.lt_log2_self
  simp only [scaleDown, Nat.one_mul]
  have power : ∀ k, twoTo k = 2 ^ k := fun _ => rfl
  rw [power, power, Nat.div_lt_iff_lt_mul (Nat.two_pow_pos _), ← Nat.pow_add]
  calc n * 2 ^ (-q).toNat < 2 ^ (n.log2 + 1) * 2 ^ (-q).toNat :=
        Nat.mul_lt_mul_of_pos_right top (Nat.two_pow_pos _)
    _ = 2 ^ (n.log2 + 1 + (-q).toNat) := (Nat.pow_add 2 _ _).symm
    _ ≤ 2 ^ (54 + q.toNat) := Nat.pow_le_pow_right (by decide) (by omega)

theorem encode_finite_lt {m field : Nat} {q : Int} (narrow : m ≤ 2 ^ 54)
    (small : q + 1079 ≤ field) (some_field : 5 ≤ field) :
    double.encode (.finite m q) < field * 2 ^ 52 := by
  have width : twoTo (double.precision - 1) = 2 ^ 52 := rfl
  have least : double.leastExponent = -1074 := rfl
  simp only [Format.encode, width, least]
  split
  · omega
  · have places : (q - -1074).toNat + 1 + 4 ≤ field := by omega
    have scaled := Nat.mul_le_mul_right (2 ^ 52) places
    rw [Nat.shiftLeft_eq]
    change ((q - -1074).toNat + 1) * 2 ^ 52 + (m - 2 ^ 52) < field * 2 ^ 52
    omega

theorem encode_infinite : double.encode .infinite = 2047 * 2 ^ 52 := rfl

/-- The nearest value has the mantissa that rounding gives or the least one of full precision, and
an exponent up to one above. -/
theorem nearest_cases (f : Format) (numerator denominator : Nat) :
    let q := exponentFor f numerator denominator
    let quotient := scaleDown numerator denominator q
    nearest f numerator denominator = .finite 0 f.leastExponent ∨
      (nearest f numerator denominator = .infinite ∧ f.ceiling < q + 1 + f.precision) ∨
      ∃ m p, nearest f numerator denominator = .finite m p ∧ p ≤ q + 1 ∧
        m ≤ max (roundDiv quotient.1 quotient.2) (twoTo (f.precision - 1)) := by
  intro q quotient
  unfold nearest
  split
  · exact .inl rfl
  · right
    dsimp only
    split
    · split
      · exact .inl ⟨rfl, by omega⟩
      · exact .inr ⟨_, _, rfl, Int.le_refl _, Nat.le_max_right _ _⟩
    · split
      · exact .inl ⟨rfl, by omega⟩
      · exact .inr ⟨_, _, rfl, by omega, Nat.le_max_left _ _⟩

theorem encode_nearest_lt (n : Nat) :
    double.encode (nearest double n 1) < (n.log2 + 1028) * 2 ^ 52 := by
  obtain ⟨least, most⟩ := exponentFor_nat (n := n)
  rcases nearest_cases double n 1 with zero | ⟨infinite, beyond⟩ | ⟨m, p, finite, raised, narrow⟩
  · rw [zero]
    have least : double.leastExponent = -1074 := rfl
    exact encode_finite_lt (Nat.zero_le _) (by omega) (by omega)
  · have room : double.ceiling = 1024 ∧ double.precision = 53 := ⟨rfl, rfl⟩
    rw [infinite, encode_infinite]
    omega
  · have scaled := scaled_lt least
    have rounded := roundDiv_le (scaleDown n 1 (exponentFor double n 1)).1
      (scaleDown n 1 (exponentFor double n 1)).2
    have half : twoTo (double.precision - 1) = 2 ^ 52 := rfl
    rw [finite]
    exact encode_finite_lt (by omega) (by omega) (by omega)

/-- The exponent field bounds the place of the leading bit. -/
theorem below_unpack {b : BitVec Format.binary64.numBits} {place : Int} (low : -1022 ≤ place)
    (room : place < 1025) (field : (unpackExponent b).toNat ≤ place + 1022) :
    Below place (UnpackedFloat.unpack Format.binary64 b) := by
  have full : (-1#(Format.binary64.exponentBits)).toNat = 2047 := by decide
  have finite := (isFinite_unpack b).mpr fun same => by rw [same, full] at field; omega
  cases value : UnpackedFloat.unpack Format.binary64 b with
  | infinity => cases value ▸ finite
  | notANumber => cases value ▸ finite
  | zero => trivial
  | finite s m e positive =>
    have bits : Format.binary64.mantissaBitsWithoutImplicit = 52 := rfl
    have bias : Format.binary64.exponentBias = 1023 := by decide
    simp only [Below, totalExponent]
    rcases unpack_finite value with ⟨fraction, least⟩ | ⟨log, -, exponent⟩
    · have log := (Nat.log2_lt (Nat.ne_of_gt positive)).mpr fraction
      rw [minExponent_double] at least
      omega
    · omega

theorem below_doubleOfNat {n : Nat} (small : n.log2 ≤ 1000) :
    Below (n.log2 + 5) (doubleOfNat n).toModel.unpack := by
  have below := encode_nearest_lt n
  have field : (@unpackExponent Format.binary64
      (UInt64.ofNat (double.encode (nearest double n 1))).toBitVec).toNat < n.log2 + 1028 := by
    rw [toNat_unpackExponent]
    change double.encode (nearest double n 1) % 2 ^ 64 / 2 ^ 52 % 2 ^ 11 < _
    generalize double.encode (nearest double n 1) = bits at below
    have high : bits / 2 ^ 52 < n.log2 + 1028 := by
      rw [Nat.div_lt_iff_lt_mul (by decide)]
      exact below
    omega
  have kept : (doubleOfNat n).toModel.unpack = UnpackedFloat.unpack Format.binary64
      (UInt64.ofNat (double.encode (nearest double n 1))).toBitVec :=
    unpack_pack_unpack proper_double _
  rw [kept]
  exact below_unpack (by omega) (by omega) (by omega)

end Naturals

end CodeAtlas.Decimal
