import CodeAtlas.Index.Flat
import CodeAtlas.Proofs.Float.Single

/-!
The total order of single-precision scores, and the rank that follows it. Values rise with their bits
as long as the sign is positive and fall with them when it is negative.
-/
namespace CodeAtlas

open Float.Model UnpackedFloat

/-- A score: a number, or the word of one that is none. -/
inductive Score where
  | number (x : Float32)
  | undefined (word : NaNWord)

def NaNWord.IsNegative (word : NaNWord) : Prop := 0x80000000 ≤ word.val.toNat

/-- The total order. Negative words that stand for no number come first, the greatest of them before
all others; then numbers by value, negative zero before positive zero; then the positive words. -/
def Score.Beneath : Score → Score → Prop
  | number x, number y => x < y ∨ (x = Embedding.negativeZero ∧ y = 0)
  | number _, undefined w => ¬ w.IsNegative
  | undefined v, number _ => v.IsNegative
  | undefined v, undefined w =>
    (v.IsNegative ∧ (w.IsNegative → w.val < v.val)) ∨
      (¬ v.IsNegative ∧ ¬ w.IsNegative ∧ v.val < w.val)

namespace Rounding

/-! The fields of a value's bits -/

section Fields

variable {f : Float.Model.Format}

theorem toNat_unpackMantissa (b : BitVec f.numBits) :
    (unpackMantissa b).toNat = b.toNat % 2 ^ f.mantissaBitsWithoutImplicit := by
  have some_bit := f.hm
  unfold unpackMantissa
  rw [BitVec.toNat_cast, BitVec.extractLsb_toNat, Nat.shiftRight_zero]
  congr 2
  omega

theorem toNat_unpackSign (b : BitVec f.numBits) :
    (unpackSign b).toNat =
      b.toNat / 2 ^ (f.mantissaBitsWithoutImplicit + f.exponentBits) % 2 := by
  unfold unpackSign
  rw [BitVec.toNat_cast, BitVec.extractLsb_toNat, Nat.shiftRight_eq_div_pow]
  simp

end Fields

def signedPlace : Sign → Int → Int
  | .positive, n => n
  | .negative, n => -1 - n

/-- Where a value stands in the line of all values of single precision. -/
def linePlace : UnpackedFloat → Int
  | .notANumber => 2143289344
  | .infinity s => signedPlace s 2139095040
  | .zero s => signedPlace s 0
  | .finite s m e _ => signedPlace s ((e + 149) * 8388608 + m)

theorem bits_eq (x : Float32) : let b := x.toModel.toBits.toBitVec
    x.toBits.toNat = (@unpackSign Format.binary32 b).toNat * 2147483648 +
      (@unpackExponent Format.binary32 b).toNat * 8388608 +
      (@unpackMantissa Format.binary32 b).toNat := by
  intro b
  have same : x.toBits.toNat = b.toNat := rfl
  have bound := b.isLt
  have sign := toNat_unpackSign (f := Format.binary32) b
  have exponent := toNat_unpackExponent (f := Format.binary32) b
  have mantissa := toNat_unpackMantissa (f := Format.binary32) b
  norm_num [Format.numBits] at sign exponent mantissa bound
  omega

theorem rank_of_bits {w : UInt32} {sign : BitVec 1} {n : Nat}
    (bits : w.toNat = sign.toNat * 2147483648 + n) (low : n < 2147483648) :
    wordRank w = signedPlace (Sign.ofBitVec sign) n := by
  unfold wordRank
  rw [bits]
  by_cases positive : sign = 0#1
  · subst positive
    simp [Sign.ofBitVec, signedPlace, low]
  · obtain rfl : sign = 1#1 := by
      apply BitVec.eq_of_toNat_eq
      have bit := sign.isLt
      have some_bit : sign.toNat ≠ 0 := fun zero => positive (BitVec.eq_of_toNat_eq zero)
      change sign.toNat = 1
      omega
    simp [Sign.ofBitVec, signedPlace]
    omega

theorem bits_of_notANumber {x : Float32} (undefined : (unpacked x).isNaN = true) :
    x.toBits.toBitVec = packedNaN Format.binary32 := by
  unfold unpacked Float32.Model.unpack UnpackedFloat.unpack at undefined
  dsimp only at undefined
  split at undefined
  · rename_i full
    split at undefined
    · cases undefined
    · rename_i some_set
      exact x.toModel.valid.eq_packedNaN full some_set
  · split at undefined
    · split at undefined <;> cases undefined
    · cases undefined

theorem wordRank_eq (x : Float32) : wordRank x.toBits = linePlace (unpacked x) := by
  have bits := bits_eq x
  have undefined (isNaN : (unpacked x).isNaN = true) : wordRank x.toBits = 2143289344 := by
    have same : x.toBits = ⟨packedNaN Format.binary32⟩ :=
      UInt32.toBitVec_inj.mp (bits_of_notANumber isNaN)
    rw [same]
    rfl
  generalize value : unpacked x = u at undefined
  unfold unpacked Float32.Model.unpack UnpackedFloat.unpack at value
  dsimp only at value bits
  generalize x.toModel.toBits.toBitVec = b at value bits
  have field := (@unpackExponent Format.binary32 b).isLt
  have fraction := (@unpackMantissa Format.binary32 b).isLt
  have bias : (Format.binary32.exponentBias : Int) = 127 := by decide
  dsimp only at field fraction
  -- A full exponent field makes an infinity or no number, an empty one zero or a value without the
  -- implicit bit.
  split at value
  · rename_i full
    rw [full] at bits
    have ones : (-1#8).toNat = 255 := rfl
    split at value
    · rename_i empty
      subst value
      rw [empty, ones] at bits
      exact rank_of_bits (n := 2139095040) (by rw [bits]; simp) (by decide)
    · subst value
      exact undefined rfl
  · split at value
    · rename_i empty
      rw [empty] at bits
      split at value
      · rename_i none_set
        subst value
        rw [none_set] at bits
        exact rank_of_bits (n := 0) (by rw [bits]; simp) (by decide)
      · subst value
        have zero : (0#8).toNat = 0 := rfl
        rw [zero, Nat.zero_mul, Nat.add_zero] at bits
        rw [rank_of_bits bits (by omega)]
        unfold linePlace
        congr 1
        rw [empty, BitVec.toNat_zero, bias]
        norm_num
    · rename_i room _
      subst value
      have most : (@unpackExponent Format.binary32 b).toNat ≠ 255 := by
        intro full
        exact room (BitVec.eq_of_toNat_eq full)
      rw [Nat.add_assoc] at bits
      rw [rank_of_bits bits (by omega)]
      unfold linePlace
      congr 1
      rw [toNat_implicit, bias]
      push_cast
      ring

theorem finite_fields {x : Float32} {s : Sign} {m : Nat} {e : Int} {positive : 0 < m}
    (finite : unpacked x = .finite s m e positive) :
    -149 ≤ e ∧ e ≤ 104 ∧ m < 16777216 ∧ (e = -149 ∨ 8388608 ≤ m) := by
  obtain ⟨canonical, most⟩ := canonical_unpack proper_single finite
  obtain ⟨narrow, least, full⟩ := canonical_cases canonical
  rw [minExponent_single] at least full
  rw [greatestExponent_single] at most
  rw [mantissaBits_single] at narrow full
  have below : m < 2 ^ 24 := (Nat.log2_lt (Nat.ne_of_gt positive)).mp (by omega)
  refine ⟨least, most, below, ?_⟩
  rcases full with implicit | lowest
  · have reached := Nat.log2_self_le (Nat.ne_of_gt positive)
    rw [show m.log2 = 23 by omega] at reached
    exact .inr reached
  · exact .inl lowest

section Fields

variable (m n : Nat) (e g : Int)

theorem fields_lt_iff : (compare e g).then (compare m n) = .lt ↔ e < g ∨ e = g ∧ m < n := by
  rw [Ordering.then_eq_lt, compare_lt_iff_lt, compare_eq_iff_eq, compare_lt_iff_lt]

theorem fields_gt_iff : (compare e g).then (compare m n) = .gt ↔ g < e ∨ e = g ∧ n < m := by
  rw [Ordering.then_eq_gt, compare_gt_iff_gt, compare_eq_iff_eq, compare_gt_iff_gt]

end Fields

def Fielded : UnpackedFloat → Prop
  | .finite _ m e _ => 0 < m ∧ m < 16777216 ∧ -149 ≤ e ∧ e ≤ 104 ∧ (e = -149 ∨ 8388608 ≤ m)
  | _ => True

/-- Numbers stand in line by what they are worth, the zeros by their signs. -/
theorem linePlace_lt_iff {a b : UnpackedFloat} (first : Fielded a) (second : Fielded b)
    (number : a.isNaN = false) (other : b.isNaN = false) :
    linePlace a < linePlace b ↔ a.lt b = true ∨ (a = .zero .negative ∧ b = .zero .positive) := by
  have negatives : compare Sign.negative Sign.negative = .eq := rfl
  have rising : compare Sign.negative Sign.positive = .lt := rfl
  have falling : compare Sign.positive Sign.negative = .gt := rfl
  have positives : compare Sign.positive Sign.positive = .eq := rfl
  unfold Fielded at first second
  -- One case for each two kinds and signs. Only finite values of one sign are compared by fields.
  rcases a with s | _ | s | ⟨s, m, e, _⟩ <;> rcases b with t | _ | t | ⟨t, n, g, _⟩
  all_goals try cases s
  all_goals try cases t
  all_goals simp [UnpackedFloat.lt, UnpackedFloat.compare, UnpackedFloat.isNaN, linePlace,
    signedPlace, fields_lt_iff, fields_gt_iff, negatives, rising, falling, positives]
    at first second number other ⊢
  all_goals omega

theorem linePlace_bounds {a : UnpackedFloat} (fielded : Fielded a) (number : a.isNaN = false) :
    -2139095041 ≤ linePlace a ∧ linePlace a ≤ 2139095040 := by
  unfold Fielded at fielded
  rcases a with s | _ | s | ⟨s, m, e, _⟩
  all_goals try cases s
  all_goals simp [UnpackedFloat.isNaN, linePlace, signedPlace] at fielded number ⊢
  all_goals omega

theorem fielded_unpacked (x : Float32) : Fielded (unpacked x) := by
  cases value : unpacked x with
  | finite s m e positive =>
    obtain ⟨least, most, narrow, full⟩ := finite_fields value
    exact ⟨positive, narrow, least, most, full⟩
  | notANumber | infinity s | zero s => trivial

theorem eq_of_toBits {x y : Float32} (same : x.toBits = y.toBits) : x = y := by
  obtain ⟨⟨a, _⟩⟩ := x
  obtain ⟨⟨b, _⟩⟩ := y
  obtain rfl : a = b := same
  rfl

end Rounding

open Rounding

theorem wordRank_inj {v w : UInt32} (same : wordRank v = wordRank w) : v = w := by
  have boundV := v.toNat_lt
  have boundW := w.toNat_lt
  unfold wordRank at same
  apply UInt32.toNat_inj.mp
  split at same <;> split at same <;> omega

theorem eq_iff_unpacked {x y : Float32} : unpacked x = unpacked y ↔ x = y := by
  refine ⟨fun same => eq_of_toBits (wordRank_inj ?_), congrArg unpacked⟩
  rw [wordRank_eq, wordRank_eq, same]

theorem wordRank_number_lt_iff {x y : Float32} (number : x.isNaN = false)
    (other : y.isNaN = false) : wordRank x.toBits < wordRank y.toBits ↔
      x < y ∨ (x = Embedding.negativeZero ∧ y = 0) := by
  have negative : unpacked Embedding.negativeZero = .zero .negative := rfl
  have positive : unpacked 0 = .zero .positive := rfl
  rw [wordRank_eq, wordRank_eq,
    linePlace_lt_iff (fielded_unpacked x) (fielded_unpacked y) number other, ← negative, ← positive,
    eq_iff_unpacked, eq_iff_unpacked, ← lt_iff]

theorem wordRank_number_bounds {x : Float32} (number : x.isNaN = false) :
    -2139095041 ≤ wordRank x.toBits ∧ wordRank x.toBits ≤ 2139095040 :=
  wordRank_eq x ▸ linePlace_bounds (fielded_unpacked x) number

theorem wordRank_undefined (w : NaNWord) :
    (w.IsNegative ∧ wordRank w.val = 2147483647 - w.val.toNat ∧ wordRank w.val < -2139095041) ∨
      (¬ w.IsNegative ∧ wordRank w.val = w.val.toNat ∧ 2139095040 < wordRank w.val) := by
  obtain ⟨word, beyond⟩ := w
  have bound := word.toNat_lt
  unfold NaNWord.IsNegative wordRank
  dsimp only
  split <;> omega

namespace Score

def word : Score → UInt32
  | number x => x.toBits
  | undefined w => w.val

theorem number_ne_undefined {x : Float32} (number : x.isNaN = false) (w : NaNWord) :
    x.toBits ≠ w.val := by
  intro same
  have inside := wordRank_number_bounds number
  rw [same] at inside
  rcases wordRank_undefined w with ⟨-, -, below⟩ | ⟨-, -, above⟩ <;> omega

theorem word_inj {a b : Score} (number : ∀ x, a = .number x → x.isNaN = false)
    (other : ∀ y, b = .number y → y.isNaN = false) (same : a.word = b.word) : a = b := by
  cases a with
  | number x =>
    cases b with
    | number y => exact congrArg Score.number (eq_of_toBits same)
    | undefined w => exact absurd same (number_ne_undefined (number x rfl) w)
  | undefined v =>
    cases b with
    | number y => exact absurd same.symm (number_ne_undefined (other y rfl) v)
    | undefined w => exact congrArg Score.undefined (Subtype.ext same)

/-- Ranks follow the total order. -/
theorem wordRank_lt_iff {a b : Score} (number : ∀ x, a = .number x → x.isNaN = false)
    (other : ∀ y, b = .number y → y.isNaN = false) :
    wordRank a.word < wordRank b.word ↔ a.Beneath b := by
  cases a with
  | number x =>
    have inside := wordRank_number_bounds (number x rfl)
    cases b with
    | number y => exact wordRank_number_lt_iff (number x rfl) (other y rfl)
    | undefined w =>
      rcases wordRank_undefined w with ⟨negative, -, below⟩ | ⟨positive, -, above⟩
      · simp only [word, Beneath, negative, not_true_eq_false, iff_false]
        omega
      · simp only [word, Beneath, positive, not_false_eq_true, iff_true]
        omega
  | undefined v =>
    cases b with
    | number y =>
      have inside := wordRank_number_bounds (other y rfl)
      rcases wordRank_undefined v with ⟨negative, -, below⟩ | ⟨positive, -, above⟩
      · simp only [word, Beneath, negative, iff_true]
        omega
      · simp only [word, Beneath, positive, iff_false]
        omega
    | undefined w =>
      simp only [word, Beneath, UInt32.lt_iff_toNat_lt]
      rcases wordRank_undefined v with ⟨sign, place, far⟩ | ⟨sign, place, far⟩ <;>
        rcases wordRank_undefined w with ⟨sign', place', far'⟩ | ⟨sign', place', far'⟩ <;>
        simp only [sign, sign', place, place', true_and, false_and, not_true_eq_false,
          not_false_eq_true, forall_const, false_imp_iff, or_false, false_or, and_true, iff_true,
          iff_false] <;> omega

end Score
end CodeAtlas
