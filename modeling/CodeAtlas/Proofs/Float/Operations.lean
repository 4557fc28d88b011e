import CodeAtlas.Proofs.Float.Packing

/-!
Products, sums, roots and quotients of finite values, by where their leading bits stand.
-/
namespace CodeAtlas.Rounding

open Float.Model UnpackedFloat

variable {f : Float.Model.Format}

theorem log2_mul_bounds {m n : Nat} (first : 0 < m) (second : 0 < n) :
    m.log2 + n.log2 ≤ (m * n).log2 ∧ (m * n).log2 ≤ m.log2 + n.log2 + 1 := by
  have product : m * n ≠ 0 := Nat.ne_of_gt (Nat.mul_pos first second)
  constructor
  · rw [Nat.le_log2 product, Nat.pow_add]
    exact Nat.mul_le_mul (Nat.log2_self_le (Nat.ne_of_gt first))
      (Nat.log2_self_le (Nat.ne_of_gt second))
  · apply Nat.le_of_lt_succ
    rw [Nat.log2_lt product]
    calc m * n < 2 ^ (m.log2 + 1) * 2 ^ (n.log2 + 1) :=
          Nat.mul_lt_mul'' Nat.lt_log2_self Nat.lt_log2_self
      _ = 2 ^ (m.log2 + n.log2 + 1 + 1) := by rw [← Nat.pow_add]; congr 1; omega

theorem rounded_mul (s₁ s₂ : Sign) {m₁ m₂ : Nat} {e₁ e₂ : Int} (first : 0 < m₁) (second : 0 < m₂)
    (canonical₁ : Canonical f m₁ e₁) (canonical₂ : Canonical f m₂ e₂) :
    ∃ place, totalExponent m₁ e₁ + totalExponent m₂ e₂ - 1 ≤ place ∧
      place ≤ totalExponent m₁ e₁ + totalExponent m₂ e₂ ∧
      Rounded f (s₁ * s₂) place
        (UnpackedFloat.mul f (.finite s₁ m₁ e₁ first) (.finite s₂ m₂ e₂ second)) := by
  have width : f.mantissaBits = 1 + f.mantissaBitsWithoutImplicit := rfl
  have minimum := minExponent_eq f
  obtain ⟨low, high⟩ := log2_mul_bounds first second
  obtain ⟨-, least₁, full₁⟩ := canonical_cases canonical₁
  obtain ⟨-, least₂, full₂⟩ := canonical_cases canonical₂
  have some_bit := f.hm
  refine ⟨totalExponent (m₁ * m₂) (e₁ + e₂), ?_, ?_,
    rounded_roundWithAccuracy _ .exact (Nat.mul_pos first second) ?_⟩ <;>
    unfold totalExponent
  · omega
  · omega
  · unfold Format.targetExponent
    omega

theorem log2_le_log2 {m n : Nat} (le : m ≤ n) : m.log2 ≤ n.log2 := by
  simp only [Nat.log2_eq_log_two]
  exact Nat.log_mono_right le

theorem rounded_add {m₁ m₂ : Nat} (e₁ e₂ : Int) (first : 0 < m₁) (second : 0 < m₂) :
    ∃ place, totalExponent m₁ e₁ ≤ place ∧ totalExponent m₂ e₂ ≤ place ∧
      Rounded f .positive place
        (UnpackedFloat.add f (.finite .positive m₁ e₁ first) (.finite .positive m₂ e₂ second)) := by
  have log₁ := log2_shiftLeft first (e₁ - min e₁ e₂).toNat
  have log₂ := log2_shiftLeft second (e₂ - min e₁ e₂).toNat
  have some_bit := shiftLeft_positive first (e₁ - min e₁ e₂).toNat
  have sum : UnpackedFloat.add f (.finite .positive m₁ e₁ first) (.finite .positive m₂ e₂ second) =
      UnpackedFloat.normalize f ((m₁ <<< (e₁ - min e₁ e₂).toNat : Nat) +
        (m₂ <<< (e₂ - min e₁ e₂).toNat : Nat)) (min e₁ e₂) .positive := rfl
  rw [sum]
  generalize m₁ <<< (e₁ - min e₁ e₂).toNat = n₁ at *
  generalize m₂ <<< (e₂ - min e₁ e₂).toNat = n₂ at *
  have above : compare ((n₁ : Int) + n₂) 0 = .gt := by
    rw [Int.compare_eq_gt]
    omega
  have low₁ := log2_le_log2 (Nat.le_add_right n₁ n₂)
  have low₂ := log2_le_log2 (Nat.le_add_left n₂ n₁)
  have round_sum := rounded_round (f := f) .positive (min e₁ e₂) (Nat.add_pos_left some_bit n₂)
  unfold UnpackedFloat.normalize
  rw [above]
  refine ⟨_, ?_, ?_, round_sum⟩ <;> unfold totalExponent <;> omega

theorem two_pow_le_sqrt {m : Nat} (positive : 0 < m) : 2 ^ (m.log2 / 2) ≤ m.sqrt := by
  rw [Nat.le_sqrt, ← Nat.pow_add]
  exact Nat.le_trans (Nat.pow_le_pow_right (by decide) (by omega))
    (Nat.log2_self_le (Nat.ne_of_gt positive))

theorem rounded_sqrt {m : Nat} (e : Int) (positive : 0 < m) :
    ∃ place, (totalExponent m e - 1) / 2 + 1 ≤ place ∧
      Rounded f .positive place (UnpackedFloat.sqrt f (.finite .positive m e positive)) := by
  have root : UnpackedFloat.sqrt f (.finite .positive m e positive) =
      roundWithAccuracy f .positive (sqrtCore f m e).1 (sqrtCore f m e).2.1 (sqrtCore f m e).2.2 :=
    rfl
  have half : ∀ n : Int, n.ediv 2 = n / 2 := fun _ => rfl
  rw [root]
  unfold sqrtCore
  dsimp only
  rw [half, half]
  generalize exponent :
    min (e / 2) (f.targetExponent ((totalExponent m e + 1) / 2)) = target
  have log := log2_shiftLeft positive (e - 2 * target).toNat
  have below := two_pow_le_sqrt (shiftLeft_positive positive (e - 2 * target).toNat)
  generalize m <<< (e - 2 * target).toNat = n at *
  have some_root : 0 < n.sqrt := Nat.lt_of_lt_of_le (Nat.two_pow_pos _) below
  have low := (Nat.le_log2 (Nat.ne_of_gt some_root)).mpr below
  have place : (totalExponent m e - 1) / 2 + 1 ≤ totalExponent n.sqrt target := by
    unfold totalExponent at *
    omega
  refine ⟨_, place, rounded_roundWithAccuracy _ _ some_root ?_⟩
  unfold Format.targetExponent at *
  omega

theorem log2_div_bounds {m n : Nat} (some_quotient : 0 < m / n) :
    m.log2 ≤ (m / n).log2 + n.log2 + 1 ∧ (m / n).log2 + n.log2 ≤ m.log2 := by
  have second : 0 < n := Nat.pos_of_ne_zero fun zero => by simp [zero] at some_quotient
  have first : m ≠ 0 := fun zero => by simp [zero] at some_quotient
  obtain ⟨low, high⟩ := log2_mul_bounds some_quotient second
  constructor
  · apply Nat.le_of_lt_succ
    rw [Nat.log2_lt first]
    calc m < n * (m / n + 1) := Nat.lt_mul_div_succ m second
      _ ≤ 2 ^ (n.log2 + 1) * 2 ^ ((m / n).log2 + 1) :=
          Nat.mul_le_mul (Nat.le_of_lt Nat.lt_log2_self) Nat.lt_log2_self
      _ = 2 ^ ((m / n).log2 + n.log2 + 1 + 1) := by rw [← Nat.pow_add]; congr 1; omega
  · exact Nat.le_trans low (log2_le_log2 (Nat.div_mul_le_self m n))

theorem rounded_div (s₁ s₂ : Sign) {m₁ m₂ : Nat} (e₁ e₂ : Int) (first : 0 < m₁) (second : 0 < m₂) :
    ∃ place, place ≤ max (totalExponent m₁ e₁ - totalExponent m₂ e₂ + 1) f.minExponent ∧
      Rounded f (s₁ / s₂) place
        (UnpackedFloat.div f (.finite s₁ m₁ e₁ first) (.finite s₂ m₂ e₂ second)) := by
  have width : f.mantissaBits = 1 + f.mantissaBitsWithoutImplicit := rfl
  have quotient : UnpackedFloat.div f (.finite s₁ m₁ e₁ first) (.finite s₂ m₂ e₂ second) =
      roundWithAccuracy f (s₁ / s₂) (divCore f m₁ e₁ m₂ e₂).1 (divCore f m₁ e₁ m₂ e₂).2.1
        (divCore f m₁ e₁ m₂ e₂).2.2 := rfl
  rw [quotient]
  unfold divCore
  dsimp only
  generalize exponent : min (e₁ - e₂)
    (f.targetExponent (totalExponent m₁ e₁ - totalExponent m₂ e₂)) = target
  have log := log2_shiftLeft first (e₁ - e₂ - target).toNat
  have some_bit := shiftLeft_positive first (e₁ - e₂ - target).toNat
  generalize m₁ <<< (e₁ - e₂ - target).toNat = n at *
  by_cases some_quotient : 0 < n / m₂
  · obtain ⟨high, low⟩ := log2_div_bounds some_quotient
    refine ⟨_, ?_, rounded_roundWithAccuracy _ _ some_quotient ?_⟩ <;>
      unfold totalExponent Format.targetExponent at * <;> omega
  · -- The operands are so far apart that no bit is left above the least place.
    have none_left : n / m₂ = 0 := Nat.eq_zero_of_not_pos some_quotient
    have smaller : n < m₂ := (Nat.div_eq_zero_iff.mp none_left).resolve_left (Nat.ne_of_gt second)
    have logs := log2_le_log2 (Nat.le_of_lt smaller)
    rw [none_left]
    refine ⟨f.minExponent, Int.le_max_right _ _, rounded_roundWithAccuracy_zero _ _ ?_⟩
    unfold totalExponent Format.targetExponent at *
    omega

end CodeAtlas.Rounding
