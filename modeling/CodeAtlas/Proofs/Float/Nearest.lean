import CodeAtlas.Proofs.Float.Operations

/-!
How far rounding moves a value: by half a unit of its place at most, and not at all if the format
has the value. The accuracy that goes along with a mantissa tells in which part of a unit the
fraction lies that was cut off.
-/
namespace CodeAtlas.Rounding

open Float.Model UnpackedFloat

variable {f : Float.Model.Format}

/-! Fractions that are cut off -/

def Tells : Accuracy → ℚ → Prop
  | .exact, x => x = 0
  | .inexact .lt, x => 0 < x ∧ x < 1 / 2
  | .inexact .eq, x => x = 1 / 2
  | .inexact .gt, x => 1 / 2 < x ∧ x < 1

section Fractions

variable {acc : Accuracy} {em : ExtendedMantissa} {x : ℚ}

theorem Tells.bounds (tells : Tells acc x) : 0 ≤ x ∧ x < 1 := by
  unfold Tells at tells
  split at tells <;> constructor <;> linarith

theorem Tells.rounded (tells : Tells acc x) (m : Nat) :
    |(acc.roundToNearestEven m : ℚ) - (m + x)| ≤ 1 / 2 := by
  unfold Tells at tells
  rw [abs_le]
  split at tells <;> unfold Accuracy.roundToNearestEven <;> dsimp only
  · constructor <;> linarith
  · constructor <;> linarith
  · rcases Nat.mod_two_eq_zero_or_one m with even | odd
    · rw [even]
      push_cast
      constructor <;> linarith
    · rw [odd]
      push_cast
      constructor <;> linarith
  · push_cast
    constructor <;> linarith

theorem ofMantissaAndAccuracy_eq (m : Nat) (acc : Accuracy) :
    (ExtendedMantissa.ofMantissaAndAccuracy m acc).accuracy = acc ∧
      (ExtendedMantissa.ofMantissaAndAccuracy m acc).mantissa = m := by
  rcases acc with _ | (_ | _ | _) <;> exact ⟨rfl, rfl⟩

theorem tells_shiftRightOne (tells : Tells em.accuracy x) :
    Tells em.shiftRightOne.accuracy (((em.mantissa % 2 : ℕ) + x) / 2) := by
  obtain ⟨m, round, sticky⟩ := em
  rcases Nat.mod_two_eq_zero_or_one m with even | odd
  · cases round <;> cases sticky <;>
      simp only [ExtendedMantissa.accuracy, ExtendedMantissa.shiftRightOne, Tells, even,
        bne_self_eq_false, Bool.or_false, Bool.or_true] at tells ⊢ <;>
      (try constructor) <;> push_cast <;> linarith
  · cases round <;> cases sticky <;>
      simp only [ExtendedMantissa.accuracy, ExtendedMantissa.shiftRightOne, Tells, odd,
        Bool.or_false, Bool.or_true, Nat.reduceBneDiff] at tells ⊢ <;>
      (try constructor) <;> push_cast <;> linarith

theorem tells_shiftRight (em : ExtendedMantissa) (tells : Tells em.accuracy x) (n : Nat) :
    ∃ y, Tells (em >>> n).accuracy y ∧ ((em >>> n).mantissa + y) * 2 ^ n = em.mantissa + x := by
  induction n with
  | zero => exact ⟨x, tells, by simp; rfl⟩
  | succ n ih =>
    obtain ⟨y, told, same⟩ := ih
    have step : em >>> (n + 1) = (em >>> n).shiftRightOne := rfl
    refine ⟨_, step ▸ tells_shiftRightOne told, ?_⟩
    have halves : ((em >>> n).mantissa : ℚ) =
        2 * ((em >>> n).mantissa / 2 : ℕ) + ((em >>> n).mantissa % 2 : ℕ) := by
      exact_mod_cast (Nat.div_add_mod _ 2).symm
    have half : (em >>> (n + 1)).mantissa = (em >>> n).mantissa / 2 := rfl
    rw [half, ← same, pow_succ]
    linear_combination (-(2 : ℚ) ^ n) * halves

end Fractions

/-! Rounding to a multiple of the unit -/

/-- A positive value with its leading bit at place `t + mantissaBits`, rounded to a multiple of
`2 ^ t`. -/
structure Near (f : Float.Model.Format) (sign : Sign) (v : ℚ) (t : Int) (x : UnpackedFloat) :
    Prop where
  low : (2 : ℚ) ^ (t + f.mantissaBits - 1) ≤ v
  high : v < (2 : ℚ) ^ (t + f.mantissaBits)
  rounded : ∃ r : Nat, |r * 2 ^ t - v| ≤ (2 : ℚ) ^ t / 2 ∧
    ∃ m e positive, x = .finite sign m e positive ∧ (m : ℚ) * 2 ^ e = r * 2 ^ t ∧
      m.log2 + 1 = f.mantissaBits ∧ t ≤ e ∧ e ≤ t + 1

theorem worth_bounds {m : Nat} {x : ℚ} (positive : 0 < m) (e : Int) (low : 0 ≤ x) (high : x < 1) :
    (2 : ℚ) ^ (m.log2 + e) ≤ (m + x) * 2 ^ e ∧ (m + x) * 2 ^ e < (2 : ℚ) ^ (m.log2 + 1 + e) := by
  have unit : (0 : ℚ) < 2 ^ e := by positivity
  have below : ((2 ^ m.log2 : ℕ) : ℚ) ≤ m := by
    exact_mod_cast Nat.log2_self_le (Nat.ne_of_gt positive)
  have above : (m : ℚ) + 1 ≤ ((2 ^ (m.log2 + 1) : ℕ) : ℚ) := by
    exact_mod_cast Nat.lt_log2_self
  rw [zpow_add₀ (by norm_num), zpow_add₀ (by norm_num)]
  push_cast at below above
  constructor
  · apply mul_le_mul_of_nonneg_right _ unit.le
    rw [zpow_natCast]
    linarith
  · apply mul_lt_mul_of_pos_right _ unit
    have power : (2 : ℚ) ^ ((m.log2 : Int) + 1) = 2 ^ (m.log2 + 1) := by
      exact_mod_cast zpow_natCast (2 : ℚ) (m.log2 + 1)
    rw [power]
    linarith

theorem shifted_worth {r : Nat} {t : Int}
    (width : r.log2 + 1 = f.mantissaBits ∨ r = 2 ^ f.mantissaBits) (normal : f.minExponent ≤ t) :
    let shifted := shiftToTargetExponent f r t .exact
    0 < shifted.1.mantissa ∧ (shifted.1.mantissa : ℚ) * 2 ^ shifted.2 = r * 2 ^ t ∧
      shifted.1.mantissa.log2 + 1 = f.mantissaBits ∧ t ≤ shifted.2 ∧ shifted.2 ≤ t + 1 := by
  have bits : f.mantissaBits = 1 + f.mantissaBitsWithoutImplicit := rfl
  have total : totalExponent r t = r.log2 + 1 + t := rfl
  intro shifted
  rcases width with fits | full
  · have target : f.targetExponent (totalExponent r t) = t := by
      unfold Format.targetExponent
      omega
    obtain ⟨shift, moved, mantissa, exponent⟩ := shiftToTargetExponent_eq .exact
      (Int.le_of_eq target.symm)
    obtain rfl : shift = 0 := by omega
    rw [Nat.pow_zero, Nat.div_one] at mantissa
    have last : shifted.2 = t := exponent.trans (by simp)
    have some_bit := f.hm
    have positive : 0 < r := by
      apply Nat.pos_of_ne_zero
      rintro rfl
      rw [Nat.log2_zero] at fits
      omega
    rw [show shifted.1.mantissa = r from mantissa, last]
    exact ⟨positive, rfl, fits, Int.le_refl t, by omega⟩
  · have log : r.log2 = f.mantissaBits := by rw [full, Nat.log2_two_pow]
    have target : f.targetExponent (totalExponent r t) = t + 1 := by
      unfold Format.targetExponent
      omega
    obtain ⟨shift, moved, mantissa, exponent⟩ := shiftToTargetExponent_eq .exact
      (show t ≤ f.targetExponent (totalExponent r t) by omega)
    obtain rfl : shift = 1 := by omega
    have half : r / 2 ^ 1 = 2 ^ f.mantissaBitsWithoutImplicit := by
      rw [full, bits, Nat.pow_add, Nat.mul_div_cancel_left _ (by decide)]
    have last : shifted.2 = t + 1 := exponent
    rw [show shifted.1.mantissa = 2 ^ f.mantissaBitsWithoutImplicit from mantissa.trans half, last]
    refine ⟨Nat.two_pow_pos _, ?_, ?_, by omega, Int.le_refl _⟩
    · rw [full, bits, zpow_add₀ (by norm_num), pow_add]
      push_cast
      ring
    · rw [Nat.log2_two_pow, bits, Nat.add_comm]

theorem roundedMantissa_width {em : ExtendedMantissa} {width : Nat}
    (log : em.mantissa.log2 + 1 = width) :
    em.roundedMantissa.log2 + 1 = width ∨ em.roundedMantissa = 2 ^ width := by
  obtain ⟨least, most⟩ := roundedMantissa_bounds em
  rcases log2_step least most with same_log | next_log
  · exact .inl (by omega)
  · right
    have top : em.mantissa < 2 ^ (em.mantissa.log2 + 1) := Nat.lt_log2_self
    have reached : 2 ^ em.roundedMantissa.log2 ≤ em.roundedMantissa :=
      Nat.log2_self_le (by rintro zero; rw [zero, Nat.log2_zero] at next_log; omega)
    rw [next_log, log] at reached
    rw [log] at top
    omega

/-- Shifted to the unit, a mantissa is rounded to a neighbouring multiple of it, and fits again
after one more shift at most. -/
theorem near_roundWithAccuracy (sign : Sign) {m : Nat} {e : Int} {acc : Accuracy} {x : ℚ}
    (tells : Tells acc x) (positive : 0 < m) (wide : e ≤ totalExponent m e - f.mantissaBits)
    (normal : f.minExponent ≤ totalExponent m e - f.mantissaBits) :
    Near f sign ((m + x) * 2 ^ e) (totalExponent m e - f.mantissaBits)
      (roundWithAccuracy f sign m e acc) := by
  have bits : f.mantissaBits = 1 + f.mantissaBitsWithoutImplicit := rfl
  have total : totalExponent m e = m.log2 + 1 + e := rfl
  have target : f.targetExponent (totalExponent m e) = totalExponent m e - f.mantissaBits := by
    unfold Format.targetExponent
    omega
  obtain ⟨low, high⟩ := worth_bounds positive e tells.bounds.1 tells.bounds.2
  generalize exponent : totalExponent m e - f.mantissaBits = t at *
  obtain ⟨n, shift⟩ : ∃ n : Nat, e + n = t := ⟨(t - e).toNat, by omega⟩
  -- The first shift cuts the mantissa off at the unit; the accuracy tells what is lost.
  obtain ⟨y, told, same⟩ := tells_shiftRight (ExtendedMantissa.ofMantissaAndAccuracy m acc)
    (by rw [(ofMantissaAndAccuracy_eq m acc).1]; exact tells) n
  have first : shiftToTargetExponent f m e acc =
      (ExtendedMantissa.ofMantissaAndAccuracy m acc >>> n, t) := by
    unfold shiftToTargetExponent shiftToExponent
    rw [target]
    have places : (t - e).toNat = n := by omega
    dsimp only
    rw [places, shift]
  have mantissa := shiftRight_mantissa (ExtendedMantissa.ofMantissaAndAccuracy m acc) n
  rw [(ofMantissaAndAccuracy_eq m acc).2] at same mantissa
  generalize ExtendedMantissa.ofMantissaAndAccuracy m acc >>> n = em at *
  have value : (m + x) * 2 ^ e = (em.mantissa + y) * (2 : ℚ) ^ t := by
    rw [← same, ← shift, zpow_add₀ (by norm_num), zpow_natCast]
    ring
  have log : em.mantissa.log2 + 1 = f.mantissaBits := by
    rw [mantissa, log2_div_two_pow]
    omega
  obtain ⟨some_left, worth, kept⟩ := shifted_worth (roundedMantissa_width log) normal
  refine ⟨?_, ?_, em.roundedMantissa, ?_, _, _, some_left, ?_, worth, kept⟩
  · exact le_trans (le_of_eq (by congr 1; omega)) low
  · exact lt_of_lt_of_eq high (by congr 1; omega)
  · have unit : (0 : ℚ) < 2 ^ t := by positivity
    rw [value, ← sub_mul, abs_mul, abs_of_pos unit]
    have half := told.rounded em.mantissa
    calc |(em.roundedMantissa : ℚ) - (em.mantissa + y)| * 2 ^ t ≤ 1 / 2 * 2 ^ t :=
          mul_le_mul_of_nonneg_right half unit.le
      _ = 2 ^ t / 2 := by ring
  · unfold roundWithAccuracy
    rw [first]
    dsimp only
    rw [dif_neg (Nat.ne_of_gt some_left)]

/-- The value moves by a share that its precision bounds, and stays if it is a short multiple of a
power of two. -/
theorem Near.value {sign : Sign} {v : ℚ} {t : Int} {x : UnpackedFloat}
    (near : Near f sign v t x) :
    ∃ m e positive, x = .finite sign m e positive ∧
      (m.log2 + 1 = f.mantissaBits ∧ t ≤ e ∧ e ≤ t + 1) ∧
      |(m : ℚ) * 2 ^ e - v| ≤ v / 2 ^ f.mantissaBits ∧
      ∀ (k : Nat) (j : Int), k < 2 ^ f.mantissaBits → v = k * 2 ^ j → (m : ℚ) * 2 ^ e = v := by
  obtain ⟨low, high, r, close, m, e, positive, rfl, worth, kept⟩ := near
  have unit : (0 : ℚ) < 2 ^ t := by positivity
  refine ⟨m, e, positive, rfl, kept, ?_, ?_⟩
  · rw [worth]
    have half : (2 : ℚ) ^ t / 2 = 2 ^ (t + f.mantissaBits - 1) / 2 ^ f.mantissaBits := by
      rw [zpow_sub₀ (by norm_num), zpow_add₀ (by norm_num), zpow_natCast, zpow_one]
      field_simp
    calc |r * 2 ^ t - v| ≤ (2 : ℚ) ^ t / 2 := close
      _ = 2 ^ (t + f.mantissaBits - 1) / 2 ^ f.mantissaBits := half
      _ ≤ v / 2 ^ f.mantissaBits := by gcongr
  · intro k j short same
    -- The value is a multiple of the unit, so the multiple next to it is the value itself.
    have coarse : t ≤ j := by
      by_contra finer
      have narrow : (k : ℚ) < 2 ^ f.mantissaBits := by exact_mod_cast short
      have below : v < (2 : ℚ) ^ (t + f.mantissaBits - 1) :=
        calc v = k * 2 ^ j := same
          _ < 2 ^ f.mantissaBits * 2 ^ j := mul_lt_mul_of_pos_right narrow (by positivity)
          _ = 2 ^ (j + f.mantissaBits) := by
            rw [zpow_add₀ (by norm_num), zpow_natCast, mul_comm]
          _ ≤ 2 ^ (t + f.mantissaBits - 1) := zpow_le_zpow_right₀ (by norm_num) (by omega)
      exact absurd low (not_le.mpr below)
    obtain ⟨n, rfl⟩ := Int.le.dest coarse
    have multiple : v = (k * 2 ^ n : ℕ) * (2 : ℚ) ^ t := by
      rw [same, zpow_add₀ (by norm_num), zpow_natCast]
      push_cast
      ring
    rw [multiple, ← sub_mul, abs_mul, abs_of_pos unit] at close
    have apart : |(r : ℚ) - (k * 2 ^ n : ℕ)| < 1 := by
      by_contra far
      have := mul_le_mul_of_nonneg_right (not_lt.mp far) unit.le
      linarith
    have equal : r = k * 2 ^ n := by
      have whole : |(r : Int) - (k * 2 ^ n : ℕ)| < 1 := by exact_mod_cast apart
      have zero := Int.abs_lt_one_iff.mp whole
      omega
    rw [worth, multiple, equal]

theorem near_mul (s₁ s₂ : Sign) {m₁ m₂ : Nat} (e₁ e₂ : Int) (first : 0 < m₁) (second : 0 < m₂)
    (full : m₁.log2 + 1 = f.mantissaBits)
    (normal : f.minExponent ≤ totalExponent (m₁ * m₂) (e₁ + e₂) - f.mantissaBits) :
    Near f (s₁ * s₂) ((m₁ * 2 ^ e₁) * (m₂ * 2 ^ e₂))
      (totalExponent (m₁ * m₂) (e₁ + e₂) - f.mantissaBits)
      (UnpackedFloat.mul f (.finite s₁ m₁ e₁ first) (.finite s₂ m₂ e₂ second)) := by
  have wide : e₁ + e₂ ≤ totalExponent (m₁ * m₂) (e₁ + e₂) - f.mantissaBits := by
    obtain ⟨low, -⟩ := log2_mul_bounds first second
    unfold totalExponent
    omega
  have product : ((m₁ * 2 ^ e₁) * (m₂ * 2 ^ e₂) : ℚ) = ((m₁ * m₂ : ℕ) + 0) * 2 ^ (e₁ + e₂) := by
    rw [zpow_add₀ (by norm_num)]
    push_cast
    ring
  have exactly : Tells .exact 0 := rfl
  rw [product]
  exact near_roundWithAccuracy _ exactly (Nat.mul_pos first second) wide normal

theorem tells_accuracyOfFraction {num den : Nat} (proper : num < den) :
    Tells (accuracyOfFraction num den) ((num : ℚ) / den) := by
  have positive : (0 : ℚ) < den := by exact_mod_cast Nat.zero_lt_of_lt proper
  have below : (num : ℚ) < den := by exact_mod_cast proper
  unfold accuracyOfFraction
  split
  · rename_i zero
    simp [Tells, zero]
  · rename_i some_left
    have above : (0 : ℚ) < num := by exact_mod_cast Nat.pos_of_ne_zero some_left
    cases order : compare (2 * num) den with
    | lt =>
      have less : (2 : ℚ) * num < den := by exact_mod_cast Nat.compare_eq_lt.mp order
      exact ⟨by positivity, by rw [div_lt_iff₀ positive]; linarith⟩
    | eq =>
      have same : (2 : ℚ) * num = den := by exact_mod_cast Nat.compare_eq_eq.mp order
      change (num : ℚ) / den = 1 / 2
      rw [div_eq_iff positive.ne']
      linarith
    | gt =>
      have more : (den : ℚ) < 2 * num := by exact_mod_cast Nat.compare_eq_gt.mp order
      exact ⟨by rw [lt_div_iff₀ positive]; linarith, by rw [div_lt_one positive]; exact below⟩

theorem near_div (s₁ s₂ : Sign) {m₁ m₂ : Nat} (e₁ e₂ : Int) (first : 0 < m₁) (second : 0 < m₂)
    (full₁ : m₁.log2 + 1 = f.mantissaBits) (full₂ : m₂.log2 + 1 = f.mantissaBits)
    (normal : f.minExponent ≤ e₁ - e₂ - f.mantissaBits) :
    ∃ t, t ≤ e₁ - e₂ ∧ Near f (s₁ / s₂) ((m₁ * 2 ^ e₁) / (m₂ * 2 ^ e₂)) t
      (UnpackedFloat.div f (.finite s₁ m₁ e₁ first) (.finite s₂ m₂ e₂ second)) := by
  have quotient : UnpackedFloat.div f (.finite s₁ m₁ e₁ first) (.finite s₂ m₂ e₂ second) =
      roundWithAccuracy f (s₁ / s₂) (divCore f m₁ e₁ m₂ e₂).1 (divCore f m₁ e₁ m₂ e₂).2.1
        (divCore f m₁ e₁ m₂ e₂).2.2 := rfl
  have target : min (e₁ - e₂) (f.targetExponent (totalExponent m₁ e₁ - totalExponent m₂ e₂)) =
      e₁ - e₂ - f.mantissaBits := by
    unfold Format.targetExponent totalExponent
    omega
  have shift : (e₁ - e₂ - (e₁ - e₂ - f.mantissaBits)).toNat = f.mantissaBits := by omega
  have log := log2_shiftLeft first f.mantissaBits
  have some_bit := shiftLeft_positive first f.mantissaBits
  have widened : ((m₁ <<< f.mantissaBits : ℕ) : ℚ) = m₁ * 2 ^ f.mantissaBits := by
    rw [Nat.shiftLeft_eq]
    push_cast
    rfl
  rw [quotient]
  unfold divCore
  dsimp only
  rw [target, shift]
  generalize m₁ <<< f.mantissaBits = n at *
  have some_quotient : 0 < n / m₂ := by
    apply Nat.div_pos _ second
    have top : m₂ < 2 ^ (m₂.log2 + 1) := Nat.lt_log2_self
    have bottom := Nat.log2_self_le (Nat.ne_of_gt some_bit)
    have powers : 2 ^ (m₂.log2 + 1) ≤ 2 ^ n.log2 := Nat.pow_le_pow_right (by decide) (by omega)
    omega
  obtain ⟨enough, small⟩ := log2_div_bounds some_quotient
  have below := Nat.mod_lt n second
  have near := near_roundWithAccuracy (f := f) (s₁ / s₂) (tells_accuracyOfFraction below)
    some_quotient (e := e₁ - e₂ - f.mantissaBits) (by unfold totalExponent; omega)
    (by unfold totalExponent; omega)
  have value : (m₁ * 2 ^ e₁) / (m₂ * 2 ^ e₂) =
      (((n / m₂ : ℕ) : ℚ) + (n % m₂ : ℕ) / m₂) * 2 ^ (e₁ - e₂ - f.mantissaBits) := by
    have positive : (m₂ : ℚ) ≠ 0 := by exact_mod_cast Nat.ne_of_gt second
    have parts : (n : ℚ) = m₂ * (n / m₂ : ℕ) + (n % m₂ : ℕ) := by
      exact_mod_cast (Nat.div_add_mod n m₂).symm
    have joined : ((n / m₂ : ℕ) : ℚ) + (n % m₂ : ℕ) / m₂ = n / m₂ := by
      rw [parts]
      field_simp
    rw [joined, widened, zpow_sub₀ (by norm_num), zpow_sub₀ (by norm_num), zpow_natCast]
    field_simp
  rw [value]
  exact ⟨_, by unfold totalExponent; omega, near⟩

end CodeAtlas.Rounding
