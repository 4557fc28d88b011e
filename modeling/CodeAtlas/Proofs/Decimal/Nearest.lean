import CodeAtlas.Decimal.Binary
import Mathlib.Algebra.Order.Field.Power
import Mathlib.Algebra.Order.Ring.Star
import Mathlib.Data.Rat.Star
import Mathlib.Tactic.FieldSimp
import Mathlib.Tactic.Linarith
import Mathlib.Tactic.NormNum
import Mathlib.Tactic.Positivity
import Mathlib.Tactic.Ring

/-!
Rounding a quotient to a format. Every quotient in the rounding interval of a value that the format
has is rounded to that value; the interval is narrower below where the exponent changes.
-/
namespace CodeAtlas.Decimal

variable {f : Format} {m n d num den : Nat} {q : Int} {y : ℚ}

structure Fits (f : Format) (m : Nat) (q : Int) : Prop where
  narrow : m < 2 ^ f.precision
  least : f.leastExponent ≤ q
  full : q = f.leastExponent ∨ 2 ^ (f.precision - 1) ≤ m
  room : q + f.precision ≤ f.ceiling

/-- How far below a value quotients are rounded to it, in units of its exponent. -/
def gapBelow (f : Format) (m : Nat) (q : Int) : ℚ :=
  if m = 2 ^ (f.precision - 1) ∧ f.leastExponent < q then 1 / 4 else 1 / 2

/-- The quotient is rounded to the value: the ends of the interval belong to even mantissas. -/
structure Inside (f : Format) (m : Nat) (q : Int) (y : ℚ) : Prop where
  low : (m - gapBelow f m q) * 2 ^ q ≤ y
  high : y ≤ (m + 1 / 2) * 2 ^ q
  open_if_odd : m % 2 = 1 → (m - gapBelow f m q) * 2 ^ q < y ∧ y < (m + 1 / 2) * 2 ^ q

theorem gapBelow_le (f : Format) (m : Nat) (q : Int) : gapBelow f m q ≤ 1 / 2 := by
  unfold gapBelow
  split <;> norm_num

theorem twoTo_eq (n : Nat) : twoTo n = 2 ^ n := rfl

theorem tenTo_cast (n : Nat) : (tenTo n : ℚ) = 10 ^ n := by
  have power : tenTo n = 10 ^ n := rfl
  rw [power]
  push_cast
  rfl

theorem half_step (positive : 0 < d) (n m : Nat) :
    |(n : ℚ) / d - m| ≤ 1 / 2 ↔ 2 * m * d ≤ 2 * n + d ∧ 2 * n ≤ 2 * m * d + d := by
  have unit : (0 : ℚ) < d := by exact_mod_cast positive
  rw [abs_le, le_sub_iff_add_le, sub_le_iff_le_add, le_div_iff₀ unit, div_le_iff₀ unit,
    ← Nat.cast_le (α := ℚ), ← Nat.cast_le (α := ℚ)]
  push_cast
  constructor <;> rintro ⟨low, high⟩ <;> constructor <;> linarith

theorem half_step_strict (positive : 0 < d) (n m : Nat) :
    |(n : ℚ) / d - m| < 1 / 2 ↔ 2 * m * d < 2 * n + d ∧ 2 * n < 2 * m * d + d := by
  have unit : (0 : ℚ) < d := by exact_mod_cast positive
  rw [abs_lt, lt_sub_iff_add_lt, sub_lt_iff_lt_add, lt_div_iff₀ unit, div_lt_iff₀ unit,
    ← Nat.cast_lt (α := ℚ), ← Nat.cast_lt (α := ℚ)]
  push_cast
  constructor <;> rintro ⟨low, high⟩ <;> constructor <;> linarith

theorem roundDiv_eq (positive : 0 < d) (close : |(n : ℚ) / d - m| ≤ 1 / 2)
    (closer : m % 2 = 1 → |(n : ℚ) / d - m| < 1 / 2) : roundDiv n d = m := by
  rw [half_step positive] at close
  rw [half_step_strict positive] at closer
  have parts := Nat.div_add_mod n d
  have rest := Nat.mod_lt n positive
  unfold roundDiv
  dsimp only
  generalize n / d = k at *
  generalize n % d = r at *
  subst parts
  -- The quotient is the mantissa or one below it.
  rcases Nat.lt_trichotomy k m with below | rfl | above
  · obtain ⟨j, rfl⟩ := Nat.exists_eq_add_of_lt below
    have one : j = 0 := by
      by_contra more
      have : 1 ≤ j := Nat.pos_of_ne_zero more
      nlinarith [close.1]
    subst one
    have half : d ≤ 2 * r := by nlinarith [close.1]
    rcases half.lt_or_eq with more | same
    · rw [if_neg (by omega), if_pos more]
    · rw [if_neg (by omega), if_neg (by omega)]
      split
      · rename_i even
        have odd : (k + 0 + 1) % 2 = 1 := by omega
        have := (closer odd).1
        nlinarith
      · rfl
  · have half : 2 * r ≤ d := by nlinarith [close.2]
    rcases half.lt_or_eq with less | same
    · rw [if_pos less]
    · rw [if_neg (by omega), if_neg (by omega)]
      split
      · rfl
      · rename_i odd
        have := (closer (by omega)).2
        nlinarith
  · obtain ⟨j, rfl⟩ := Nat.exists_eq_add_of_lt above
    nlinarith [close.2, Nat.zero_le (j * d)]

/-! The exponent -/

theorem scaleDown_ratio (num den : Nat) (q : Int) :
    ((scaleDown num den q).1 : ℚ) / (scaleDown num den q).2 = num / den / 2 ^ q := by
  simp only [scaleDown, twoTo_eq]
  push_cast
  rcases le_total 0 q with above | below
  · obtain ⟨n, rfl⟩ := Int.eq_ofNat_of_zero_le above
    simp [div_div]
  · obtain ⟨n, rfl⟩ := Int.exists_eq_neg_ofNat below
    simp [zpow_neg, mul_div_right_comm]

theorem scaleDown_pos (positive : 0 < den) (num : Nat) (q : Int) :
    0 < (scaleDown num den q).2 :=
  Nat.mul_pos positive (Nat.two_pow_pos _)

theorem log2_ratio (some_num : 0 < num) (some_den : 0 < den) :
    (2 : ℚ) ^ ((num.log2 : Int) - den.log2 - 1) ≤ num / den ∧
      (num : ℚ) / den < 2 ^ ((num.log2 : Int) - den.log2 + 1) := by
  have unit : (0 : ℚ) < den := by exact_mod_cast some_den
  have num_low : ((2 : ℚ) ^ (num.log2 : Int)) ≤ num := by
    exact_mod_cast Nat.log2_self_le (Nat.ne_of_gt some_num)
  have num_high : (num : ℚ) < 2 ^ ((num.log2 : Int) + 1) := by
    exact_mod_cast (Nat.lt_log2_self : num < 2 ^ (num.log2 + 1))
  have den_low : ((2 : ℚ) ^ (den.log2 : Int)) ≤ den := by
    exact_mod_cast Nat.log2_self_le (Nat.ne_of_gt some_den)
  have den_high : (den : ℚ) ≤ 2 ^ ((den.log2 : Int) + 1) := by
    exact_mod_cast (Nat.le_of_lt Nat.lt_log2_self : den ≤ 2 ^ (den.log2 + 1))
  constructor
  · rw [le_div_iff₀ unit]
    calc (2 : ℚ) ^ ((num.log2 : Int) - den.log2 - 1) * den
        ≤ 2 ^ ((num.log2 : Int) - den.log2 - 1) * 2 ^ ((den.log2 : Int) + 1) := by gcongr
      _ = 2 ^ (num.log2 : Int) := by
        rw [← zpow_add₀ (by norm_num)]
        congr 1
        omega
      _ ≤ num := num_low
  · rw [div_lt_iff₀ unit]
    calc (num : ℚ) < 2 ^ ((num.log2 : Int) + 1) := num_high
      _ = 2 ^ ((num.log2 : Int) - den.log2 + 1) * 2 ^ (den.log2 : Int) := by
        rw [← zpow_add₀ (by norm_num)]
        congr 1
        omega
      _ ≤ 2 ^ ((num.log2 : Int) - den.log2 + 1) * den := by gcongr

/-- The exponent stands for the place of the quotient's leading bit, down to the format's least. -/
theorem exponentFor_spec (f : Format) (some_num : 0 < num) (some_den : 0 < den) :
    ∃ g : Int, exponentFor f num den = max g f.leastExponent ∧
      (2 : ℚ) ^ (g + f.precision - 1) ≤ num / den ∧ (num : ℚ) / den < 2 ^ (g + f.precision) := by
  obtain ⟨low, high⟩ := log2_ratio some_num some_den
  let guess : Int := (num.log2 : Int) - den.log2 - f.precision
  have fits : (scaleDown num den guess).1 < (scaleDown num den guess).2 * twoTo f.precision ↔
      (num : ℚ) / den < 2 ^ (guess + f.precision) := by
    have unit : (0 : ℚ) < (scaleDown num den guess).2 := by
      exact_mod_cast scaleDown_pos some_den num guess
    have scale : (0 : ℚ) < 2 ^ guess := by positivity
    rw [zpow_add₀ (by norm_num), ← div_lt_iff₀' scale, ← scaleDown_ratio num den guess,
      div_lt_iff₀' unit, twoTo_eq, zpow_natCast]
    norm_cast
  unfold exponentFor
  dsimp only
  by_cases below : (num : ℚ) / den < 2 ^ (guess + f.precision)
  · refine ⟨guess, ?_, ?_, below⟩
    · rw [if_pos (decide_eq_true (fits.mpr below))]
    · refine le_trans (le_of_eq ?_) low
      congr 1
      omega
  · refine ⟨guess + 1, ?_, ?_, ?_⟩
    · rw [if_neg (by simpa using mt fits.mp below)]
    · refine le_trans (le_of_eq ?_) (not_lt.mp below)
      congr 1
      omega
    · refine lt_of_lt_of_eq high ?_
      congr 1
      omega

/-! The nearest value -/

theorem nearest_of_exponent (some_num : num ≠ 0) (exponent : exponentFor f num den = q)
    (rounded : roundDiv (scaleDown num den q).1 (scaleDown num den q).2 = m)
    (narrow : m ≠ 2 ^ f.precision) (room : q + f.precision ≤ f.ceiling) :
    nearest f num den = .finite m q := by
  unfold nearest
  rw [if_neg some_num, exponent]
  dsimp only
  rw [rounded, twoTo_eq, if_neg narrow, if_neg (by omega)]

theorem nearest_of_carry (some_num : num ≠ 0) (exponent : exponentFor f num den = q - 1)
    (rounded : roundDiv (scaleDown num den (q - 1)).1 (scaleDown num den (q - 1)).2 =
      2 ^ f.precision) (room : q + f.precision ≤ f.ceiling) :
    nearest f num den = .finite (2 ^ (f.precision - 1)) q := by
  unfold nearest
  rw [if_neg some_num, exponent]
  dsimp only
  rw [rounded, twoTo_eq, if_pos rfl, if_neg (by omega), Int.sub_add_cancel, twoTo_eq]

theorem place_lt {g h : Int} {y : ℚ} (low : (2 : ℚ) ^ g ≤ y) (high : y < 2 ^ h) : g < h :=
  (zpow_lt_zpow_iff_right₀ (by norm_num)).mp (lt_of_le_of_lt low high)

theorem Inside.lt_top (inside : Inside f m q y) (fits : Fits f m q) :
    y < 2 ^ (q + f.precision) := by
  have unit : (0 : ℚ) < 2 ^ q := by positivity
  have narrow : (m : ℚ) + 1 ≤ 2 ^ f.precision := by exact_mod_cast fits.narrow
  calc y ≤ (m + 1 / 2) * 2 ^ q := inside.high
    _ < 2 ^ f.precision * 2 ^ q := mul_lt_mul_of_pos_right (by linarith) unit
    _ = 2 ^ (q + f.precision) := by rw [zpow_add₀ (by norm_num), zpow_natCast, mul_comm]

/-- A quotient with its leading bit in the value's place, or with the least exponent. -/
theorem nearest_at_place (some_num : 0 < num) (some_den : 0 < den) (fits : Fits f m q)
    (inside : Inside f m q (num / den))
    (place : q = f.leastExponent ∨ (2 : ℚ) ^ (q + f.precision - 1) ≤ num / den) :
    nearest f num den = .finite m q := by
  obtain ⟨g, exponent, low, high⟩ := exponentFor_spec f some_num some_den
  have scaled := scaleDown_ratio num den q
  have unit : (0 : ℚ) < 2 ^ q := by positivity
  have gap := gapBelow_le f m q
  have top := inside.lt_top fits
  generalize (num : ℚ) / den = y at *
  have here : exponentFor f num den = q := by
    have upto := place_lt low top
    have least := fits.least
    rcases place with lowest | reached
    · omega
    · have onwards := place_lt reached high
      omega
  have close : |y / 2 ^ q - m| ≤ 1 / 2 := by
    rw [abs_le, le_sub_iff_add_le, sub_le_iff_le_add, le_div_iff₀ unit, div_le_iff₀ unit]
    have low := inside.low
    have high := inside.high
    constructor <;> nlinarith
  have closer : m % 2 = 1 → |y / 2 ^ q - m| < 1 / 2 := by
    intro odd
    obtain ⟨low, high⟩ := inside.open_if_odd odd
    rw [abs_lt, lt_sub_iff_add_lt, sub_lt_iff_lt_add, lt_div_iff₀ unit, div_lt_iff₀ unit]
    constructor <;> nlinarith
  rw [← scaled] at close closer
  exact nearest_of_exponent (Nat.ne_of_gt some_num) here
    (roundDiv_eq (scaleDown_pos some_den num q) close closer) (Nat.ne_of_lt fits.narrow) fits.room

/-- Below the place of the value only the least mantissa is left, with a quotient close to it. -/
theorem Inside.least_mantissa (inside : Inside f m q y) (fits : Fits f m q)
    (higher : q ≠ f.leastExponent) (below : y < 2 ^ (f.precision - 1) * 2 ^ q) :
    m = 2 ^ (f.precision - 1) ∧ (2 ^ (f.precision - 1) - 1 / 4) * 2 ^ q ≤ y := by
  have unit : (0 : ℚ) < 2 ^ q := by positivity
  have gap := gapBelow_le f m q
  have full : 2 ^ (f.precision - 1) ≤ m := fits.full.resolve_left higher
  have least : m = 2 ^ (f.precision - 1) := by
    by_contra other
    have more : (2 : ℚ) ^ (f.precision - 1) + 1 ≤ m := by
      exact_mod_cast lt_of_le_of_ne full (Ne.symm other)
    have far : (2 : ℚ) ^ (f.precision - 1) * 2 ^ q ≤ (m - gapBelow f m q) * 2 ^ q := by
      apply mul_le_mul_of_nonneg_right _ unit.le
      linarith
    linarith [inside.low]
  have quarter : gapBelow f m q = 1 / 4 :=
    if_pos ⟨least, lt_of_le_of_ne fits.least (Ne.symm higher)⟩
  have low := inside.low
  rw [quarter, least] at low
  push_cast at low
  exact ⟨least, low⟩

theorem nearest_below_place (some_num : 0 < num) (some_den : 0 < den) (some_bit : 1 < f.precision)
    (fits : Fits f m q) (inside : Inside f m q (num / den)) (higher : q ≠ f.leastExponent)
    (below : (num : ℚ) / den < 2 ^ (q + f.precision - 1)) : nearest f num den = .finite m q := by
  obtain ⟨g, exponent, low, high⟩ := exponentFor_spec f some_num some_den
  have scaled := scaleDown_ratio num den (q - 1)
  have unit : (0 : ℚ) < 2 ^ q := by positivity
  have above_least : f.leastExponent < q := lt_of_le_of_ne fits.least (Ne.symm higher)
  have split : (2 : ℚ) ^ (q + f.precision - 1) = 2 ^ (f.precision - 1) * 2 ^ q := by
    rw [← zpow_natCast, ← zpow_add₀ (by norm_num)]
    congr 1
    omega
  have half_unit : (2 : ℚ) ^ (q - 1) = 2 ^ q / 2 := by rw [zpow_sub₀ (by norm_num), zpow_one]
  have whole : (2 : ℚ) ^ f.precision = 2 * 2 ^ (f.precision - 1) := by
    rw [← pow_succ']
    congr 1
    omega
  have two : (2 : ℚ) ≤ 2 ^ (f.precision - 1) := by
    calc (2 : ℚ) = 2 ^ 1 := by norm_num
      _ ≤ 2 ^ (f.precision - 1) := pow_le_pow_right₀ (by norm_num) (by omega)
  obtain ⟨rfl, least⟩ := inside.least_mantissa fits higher (split ▸ below)
  generalize (num : ℚ) / den = y at *
  -- The quotient has the exponent one further down, where its mantissa is rounded up to full width.
  have here : exponentFor f num den = q - 1 := by
    have upto : g + f.precision - 1 < q + f.precision - 1 := place_lt low below
    have onwards : q - 2 + f.precision < g + f.precision := by
      refine place_lt (le_trans ?_ least) high
      calc (2 : ℚ) ^ (q - 2 + f.precision) = 2 ^ (q + f.precision - 1) / 2 := by
            rw [div_eq_mul_inv, ← zpow_neg_one, ← zpow_add₀ (by norm_num)]
            congr 1
            omega
        _ = 2 ^ (f.precision - 1) * 2 ^ q / 2 := by rw [split]
        _ ≤ (2 ^ (f.precision - 1) - 1 / 4) * 2 ^ q := by nlinarith
    omega
  have close : |y / 2 ^ (q - 1) - (2 ^ f.precision : ℕ)| ≤ 1 / 2 := by
    rw [split] at below
    rw [half_unit, abs_le, le_sub_iff_add_le, sub_le_iff_le_add, le_div_iff₀ (by positivity),
      div_le_iff₀ (by positivity)]
    push_cast
    rw [whole]
    constructor <;> nlinarith
  rw [← scaled] at close
  apply nearest_of_carry (Nat.ne_of_gt some_num) here _ fits.room
  apply roundDiv_eq (scaleDown_pos some_den num (q - 1)) close
  intro odd
  have even : 2 ^ f.precision % 2 = 0 := by
    rw [Nat.pow_mod, Nat.mod_self, Nat.zero_pow (by omega), Nat.zero_mod]
  omega

theorem nearest_of_inside (some_num : 0 < num) (some_den : 0 < den) (some_bit : 1 < f.precision)
    (fits : Fits f m q) (inside : Inside f m q (num / den)) : nearest f num den = .finite m q := by
  by_cases place : q = f.leastExponent ∨ (2 : ℚ) ^ (q + f.precision - 1) ≤ num / den
  · exact nearest_at_place some_num some_den fits inside place
  · obtain ⟨higher, below⟩ := not_or.mp place
    exact nearest_below_place some_num some_den some_bit fits inside higher (not_le.mp below)

end CodeAtlas.Decimal
