import Mathlib.Data.Nat.Log
import Mathlib.Tactic.IntervalCases
import Mathlib.Tactic.Ring

/-!
Where the leading bit of a floating-point value stands, and where rounding moves it: never down, and
up by one place at most, as long as the value is not below the least of its format.
-/
namespace CodeAtlas.Rounding

open Float.Model UnpackedFloat

theorem log2_div_two_pow (m n : Nat) : (m / 2 ^ n).log2 = m.log2 - n := by
  simp only [Nat.log2_eq_log_two, Nat.log_div_base_pow]

theorem shiftRight_mantissa (em : ExtendedMantissa) (n : Nat) :
    (em >>> n).mantissa = em.mantissa / 2 ^ n := by
  induction n with
  | zero => rw [Nat.pow_zero, Nat.div_one]; rfl
  | succ n ih =>
    rw [Nat.pow_succ, ← Nat.div_div_eq_div_mul, ← ih]
    rfl

theorem roundedMantissa_bounds (em : ExtendedMantissa) :
    em.mantissa ≤ em.roundedMantissa ∧ em.roundedMantissa ≤ em.mantissa + 1 := by
  obtain ⟨m, round, sticky⟩ := em
  cases round <;> cases sticky <;>
    simp only [ExtendedMantissa.roundedMantissa, ExtendedMantissa.accuracy,
      Accuracy.roundToNearestEven] <;> omega

theorem log2_step {m r : Nat} (least : m ≤ r) (most : r ≤ m + 1) :
    r.log2 = m.log2 ∨ r.log2 = m.log2 + 1 := by
  by_cases zero : m = 0
  · subst zero
    interval_cases r <;> decide
  · have top : r < 2 ^ (m.log2 + 2) := by
      have below := @Nat.lt_log2_self m
      rw [Nat.pow_succ] at below ⊢
      omega
    have bottom := (Nat.le_log2 (k := m.log2) (show r ≠ 0 by omega)).mpr
      (Nat.le_trans (Nat.log2_self_le zero) least)
    have log := (Nat.log2_lt (show r ≠ 0 by omega)).mpr top
    omega

variable {f : Float.Model.Format}

def Canonical (f : Float.Model.Format) (m : Nat) (e : Int) : Prop :=
  e = f.targetExponent (totalExponent m e)

theorem canonical_cases {m : Nat} {e : Int} (canonical : Canonical f m e) :
    m.log2 + 1 ≤ f.mantissaBits ∧ f.minExponent ≤ e ∧
      (m.log2 + 1 = f.mantissaBits ∨ e = f.minExponent) := by
  unfold Canonical Format.targetExponent totalExponent at canonical
  omega

/-- A shift to the exponent of the format. -/
theorem shiftToTargetExponent_eq {m : Nat} {e : Int} (acc : Accuracy)
    (wide : e ≤ f.targetExponent (totalExponent m e)) :
    ∃ shift : Nat, e + shift = f.targetExponent (totalExponent m e) ∧
      (shiftToTargetExponent f m e acc).1.mantissa = m / 2 ^ shift ∧
      (shiftToTargetExponent f m e acc).2 = e + shift := by
  refine ⟨(f.targetExponent (totalExponent m e) - e).toNat, by omega, ?_, rfl⟩
  simp only [shiftToTargetExponent, shiftToExponent, shiftRight_mantissa]
  cases acc with
  | exact => rfl
  | inexact order => cases order <;> rfl

/-- A value that is not below the least of the format keeps its leading bit. -/
theorem shift_keeps_place {m : Nat} {e : Int} (acc : Accuracy) (positive : 0 < m)
    (wide : e ≤ f.targetExponent (totalExponent m e)) (room : f.minExponent < totalExponent m e) :
    let shifted := shiftToTargetExponent f m e acc
    0 < shifted.1.mantissa ∧ totalExponent shifted.1.mantissa shifted.2 = totalExponent m e ∧
      shifted.2 = f.targetExponent (totalExponent m e) := by
  obtain ⟨shift, target, mantissa, exponent⟩ := shiftToTargetExponent_eq acc wide
  have bits : f.mantissaBits = 1 + f.mantissaBitsWithoutImplicit := rfl
  have short : shift ≤ m.log2 := by
    unfold Format.targetExponent at target
    unfold totalExponent at target room
    omega
  have below := (Nat.le_log2 (Nat.ne_of_gt positive)).mp short
  have log := log2_div_two_pow m shift
  dsimp only
  rw [mantissa, exponent]
  refine ⟨Nat.div_pos below (Nat.two_pow_pos _), ?_, target⟩
  unfold totalExponent
  omega

inductive Rounded (f : Float.Model.Format) (sign : Sign) (place : Int) : UnpackedFloat → Prop where
  | zero (tiny : place ≤ f.minExponent) : Rounded f sign place (.zero sign)
  | finite {m : Nat} {e : Int} (positive : 0 < m) (canonical : Canonical f m e)
      (low : place ≤ totalExponent m e)
      (high : totalExponent m e ≤ max (place + 1) (f.minExponent + 1)) :
      Rounded f sign place (.finite sign m e positive)

theorem rounded_of_shifted (sign : Sign) {place : Int} {r : Nat} {e : Int}
    (wide : e ≤ f.targetExponent (totalExponent r e)) (room : f.minExponent < totalExponent r e)
    (low : 0 < r → place ≤ totalExponent r e) (zero : r = 0 → place ≤ f.minExponent)
    (high : totalExponent r e ≤ max (place + 1) (f.minExponent + 1)) :
    Rounded f sign place
      (if h : (shiftToTargetExponent f r e .exact).1.mantissa = 0 then .zero sign
      else .finite sign (shiftToTargetExponent f r e .exact).1.mantissa
        (shiftToTargetExponent f r e .exact).2 (Nat.pos_of_ne_zero h)) := by
  by_cases none_left : r = 0
  · obtain ⟨shift, -, mantissa, -⟩ := shiftToTargetExponent_eq .exact wide
    rw [dif_pos (by rw [mantissa, none_left, Nat.zero_div])]
    exact .zero (zero none_left)
  · have positive := Nat.pos_of_ne_zero none_left
    obtain ⟨left, kept, target⟩ := shift_keeps_place .exact positive wide room
    rw [dif_neg (Nat.ne_of_gt left)]
    exact .finite left (by rw [Canonical, kept, target]) (kept ▸ low positive) (kept ▸ high)

theorem rounded_of_gone (sign : Sign) {place : Int} {em : ExtendedMantissa} {e : Int}
    (gone : em.mantissa = 0) (least : e = f.minExponent) (tiny : place ≤ f.minExponent) :
    Rounded f sign place
      (if h : (shiftToTargetExponent f em.roundedMantissa e .exact).1.mantissa = 0 then .zero sign
      else .finite sign (shiftToTargetExponent f em.roundedMantissa e .exact).1.mantissa
        (shiftToTargetExponent f em.roundedMantissa e .exact).2 (Nat.pos_of_ne_zero h)) := by
  have bits : f.mantissaBits = 1 + f.mantissaBitsWithoutImplicit := rfl
  have flat : em.roundedMantissa.log2 = 0 := by
    obtain ⟨low, high⟩ := roundedMantissa_bounds em
    generalize em.roundedMantissa = r at *
    rw [gone] at low high
    interval_cases r <;> decide
  have place_eq : totalExponent em.roundedMantissa e = em.roundedMantissa.log2 + 1 + e := rfl
  have target : f.targetExponent (totalExponent em.roundedMantissa e) =
    max (totalExponent em.roundedMantissa e - f.mantissaBits) f.minExponent := rfl
  apply rounded_of_shifted <;> omega

theorem rounded_roundWithAccuracy (sign : Sign) {m : Nat} {e : Int} (acc : Accuracy)
    (positive : 0 < m) (wide : e ≤ f.targetExponent (totalExponent m e)) :
    Rounded f sign (totalExponent m e) (roundWithAccuracy f sign m e acc) := by
  have bits : f.mantissaBits = 1 + f.mantissaBitsWithoutImplicit := rfl
  have kept := shift_keeps_place acc positive wide
  obtain ⟨shift, target, mantissa, exponent⟩ := shiftToTargetExponent_eq acc wide
  unfold roundWithAccuracy
  generalize shiftToTargetExponent f m e acc = first at *
  obtain ⟨em, e₁⟩ := first
  dsimp only at kept mantissa exponent ⊢
  by_cases room : f.minExponent < totalExponent m e
  · obtain ⟨left, kept, target⟩ := kept room
    obtain ⟨least, most⟩ := roundedMantissa_bounds em
    have step := log2_step least most
    generalize em.roundedMantissa = r at *
    apply rounded_of_shifted <;> unfold totalExponent Format.targetExponent at * <;> omega
  · have gone : em.mantissa = 0 := by
      rw [mantissa, Nat.div_eq_zero_iff]
      right
      apply (Nat.log2_lt (Nat.ne_of_gt positive)).mp
      unfold totalExponent Format.targetExponent at *
      omega
    refine rounded_of_gone sign gone ?_ (Int.not_lt.mp room)
    unfold totalExponent Format.targetExponent at *
    omega

/-- A quotient may have lost all of its bits before it is rounded. -/
theorem rounded_roundWithAccuracy_zero (sign : Sign) {e : Int} (acc : Accuracy)
    (low : e ≤ f.minExponent) :
    Rounded f sign f.minExponent (roundWithAccuracy f sign 0 e acc) := by
  have bits : f.mantissaBits = 1 + f.mantissaBitsWithoutImplicit := rfl
  have positive := f.hm
  have flat : Nat.log2 0 = 0 := by decide
  have least : f.targetExponent (totalExponent 0 e) = f.minExponent := by
    unfold totalExponent Format.targetExponent
    omega
  obtain ⟨shift, target, mantissa, exponent⟩ := shiftToTargetExponent_eq (m := 0) acc
    (Int.le_trans low (Int.le_of_eq least.symm))
  unfold roundWithAccuracy
  generalize shiftToTargetExponent f 0 e acc = first at *
  obtain ⟨em, e₁⟩ := first
  dsimp only at mantissa exponent ⊢
  exact rounded_of_gone sign (by rw [mantissa, Nat.zero_div]) (by omega) (Int.le_refl _)

theorem shiftLeft_positive {m : Nat} (positive : 0 < m) (shift : Nat) : 0 < m <<< shift := by
  rw [Nat.shiftLeft_eq]
  exact Nat.mul_pos positive (Nat.two_pow_pos _)

theorem log2_shiftLeft {m : Nat} (positive : 0 < m) (shift : Nat) :
    (m <<< shift).log2 = m.log2 + shift := by
  induction shift with
  | zero => rfl
  | succ shift ih =>
    rw [Nat.shiftLeft_succ, Nat.log2_two_mul (Nat.ne_of_gt (shiftLeft_positive positive shift)), ih]
    rfl

theorem totalExponent_shiftLeft {m : Nat} (positive : 0 < m) (e : Int) (shift : Nat) :
    totalExponent (m <<< shift) (e - shift) = totalExponent m e := by
  have log := log2_shiftLeft positive shift
  unfold totalExponent
  omega

theorem rounded_round (sign : Sign) {m : Nat} (e : Int) (positive : 0 < m) :
    Rounded f sign (totalExponent m e) (round f sign m e) := by
  unfold UnpackedFloat.round decreaseExponent
  dsimp only
  generalize shift_eq : (e - f.targetExponent (totalExponent m e)).toNat = shift
  have kept := totalExponent_shiftLeft positive e shift
  have rounded := rounded_roundWithAccuracy (f := f) sign .exact
    (shiftLeft_positive positive shift) (e := e - shift) (by rw [kept]; omega)
  rwa [kept] at rounded

end CodeAtlas.Rounding
