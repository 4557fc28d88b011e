import CodeAtlas.Decimal.Shortest
import CodeAtlas.Proofs.Decimal.Nearest

/-!
The shortest decimal of a value lies in the value's rounding interval, and no coarser grid has a
point there.
-/
namespace CodeAtlas.Decimal

variable {f : Format} {m d : Nat} {q grid : Int} {y : ℚ}

theorem pow_toNat (b : ℚ) (nonzero : b ≠ 0) (e : Int) : b ^ e.toNat = b ^ e * b ^ (-e).toNat := by
  rcases Int.le_total 0 e with above | below
  · obtain ⟨n, rfl⟩ := Int.eq_ofNat_of_zero_le above
    simp
  · obtain ⟨n, rfl⟩ := Int.exists_eq_neg_ofNat below
    simp [nonzero]

namespace Interval

variable (i : Interval)

def scale (grid : Int) : Nat := tenTo (-grid).toNat * twoTo (-i.exponent).toNat

theorem scale_pos (grid : Int) : (0 : ℚ) < i.scale grid := by
  have positive : 0 < i.scale grid :=
    Nat.mul_pos (Nat.pow_pos (by decide)) (Nat.two_pow_pos _)
  exact_mod_cast positive

theorem binarySide_eq (grid : Int) (n : Nat) :
    (i.binarySide grid n : ℚ) = n * 2 ^ i.exponent * i.scale grid := by
  have power := pow_toNat 2 (by norm_num) i.exponent
  simp only [binarySide, scale, Nat.cast_mul, tenTo_cast, twoTo_eq, Nat.cast_pow, Nat.cast_ofNat]
  rw [power]
  ring

theorem decimalSide_eq (grid : Int) (d : Nat) :
    (i.decimalSide grid d : ℚ) = d * 10 ^ grid * i.scale grid := by
  have power := pow_toNat 10 (by norm_num) grid
  simp only [decimalSide, scale, Nat.cast_mul, tenTo_cast, twoTo_eq, Nat.cast_pow, Nat.cast_ofNat]
  rw [power]
  ring

theorem binary_le_decimal (grid : Int) (n d : Nat) :
    i.binarySide grid n ≤ i.decimalSide grid d ↔ (n * 2 ^ i.exponent : ℚ) ≤ d * 10 ^ grid := by
  rw [← Nat.cast_le (α := ℚ), i.binarySide_eq, i.decimalSide_eq,
    mul_le_mul_iff_left₀ (i.scale_pos grid)]

theorem decimal_le_binary (grid : Int) (n d : Nat) :
    i.decimalSide grid d ≤ i.binarySide grid n ↔ (d * 10 ^ grid : ℚ) ≤ n * 2 ^ i.exponent := by
  rw [← Nat.cast_le (α := ℚ), i.binarySide_eq, i.decimalSide_eq,
    mul_le_mul_iff_left₀ (i.scale_pos grid)]

structure Contains (y : ℚ) : Prop where
  low : i.low * 2 ^ i.exponent ≤ y
  high : y ≤ i.high * 2 ^ i.exponent
  inner : i.closed = false → i.low * 2 ^ i.exponent < y ∧ y < i.high * 2 ^ i.exponent

theorem holds_iff : i.holds grid d = true ↔ i.Contains (d * 10 ^ grid) := by
  have low := i.binary_le_decimal grid i.low d
  have high := i.decimal_le_binary grid i.high d
  have above_low := i.decimal_le_binary grid i.low d
  have below_high := i.binary_le_decimal grid i.high d
  unfold holds
  dsimp only
  cases closed : i.closed with
  | true =>
    simp only [if_true, Bool.and_eq_true, decide_eq_true_eq, low, high]
    constructor
    · rintro ⟨least, most⟩
      exact ⟨least, most, by simp [closed]⟩
    · intro inside
      exact ⟨inside.low, inside.high⟩
  | false =>
    simp only [Bool.false_eq_true, if_false, Bool.and_eq_true, decide_eq_true_eq, ← Nat.not_le,
      above_low, below_high, not_le]
    constructor
    · rintro ⟨least, most⟩
      exact ⟨least.le, most.le, fun _ => ⟨least, most⟩⟩
    · intro inside
      exact inside.inner closed

structure Proper : Prop where
  low : i.low < i.value
  high : i.value < i.high

theorem below_spec (grid : Int) :
    (i.below grid * 10 ^ grid : ℚ) ≤ i.value * 2 ^ i.exponent ∧
      (i.value * 2 ^ i.exponent : ℚ) < (i.below grid + 1 : ℕ) * 10 ^ grid := by
  have linear : ∀ d, i.decimalSide grid d = d * i.decimalSide grid 1 := by
    intro d
    simp only [decimalSide, Nat.one_mul, Nat.mul_assoc]
  have positive : 0 < i.decimalSide grid 1 := by
    unfold decimalSide
    rw [Nat.one_mul]
    exact Nat.mul_pos (Nat.pow_pos (by decide)) (Nat.two_pow_pos _)
  constructor
  · rw [← i.decimal_le_binary, linear]
    exact Nat.div_mul_le_self _ _
  · rw [← not_le, ← i.decimal_le_binary, Nat.not_le, linear]
    exact Nat.lt_mul_of_div_lt (Nat.lt_succ_self _) positive

theorem onGrid_holds (found : i.onGrid? grid = some d) : i.holds grid d = true := by
  unfold onGrid? at found
  dsimp only at found
  grind

theorem Contains.rise {i : Interval} {y z : ℚ} (inside : i.Contains y) (more : y ≤ z)
    (under : z < i.high * 2 ^ i.exponent) : i.Contains z :=
  ⟨inside.low.trans more, under.le, fun inner => ⟨(inside.inner inner).1.trans_le more, under⟩⟩

theorem Contains.sink {i : Interval} {y z : ℚ} (inside : i.Contains y) (less : z ≤ y)
    (above : i.low * 2 ^ i.exponent < z) : i.Contains z :=
  ⟨above.le, less.trans inside.high, fun inner => ⟨above, less.trans_lt (inside.inner inner).2⟩⟩

theorem Proper.bounds {i : Interval} (proper : i.Proper) :
    (i.low * 2 ^ i.exponent : ℚ) < i.value * 2 ^ i.exponent ∧
      (i.value * 2 ^ i.exponent : ℚ) < i.high * 2 ^ i.exponent := by
  have unit : (0 : ℚ) < 2 ^ i.exponent := by positivity
  have low := proper.low
  have high := proper.high
  constructor <;> gcongr

theorem onGrid_missed (none : i.onGrid? grid = none) :
    ¬ i.Contains (i.below grid * 10 ^ grid) ∧
      ¬ i.Contains ((i.below grid + 1 : ℕ) * 10 ^ grid) := by
  rw [← i.holds_iff, ← i.holds_iff]
  unfold onGrid? at none
  dsimp only at none
  grind

/-- If no neighbour of the value lies in the interval, no point of the grid does. -/
theorem onGrid_empty (proper : i.Proper) (none : i.onGrid? grid = none) (d : Nat) :
    ¬ i.Contains (d * 10 ^ grid) := by
  have step : (0 : ℚ) < 10 ^ grid := by positivity
  obtain ⟨least, most⟩ := i.below_spec grid
  obtain ⟨low, high⟩ := proper.bounds
  obtain ⟨left, right⟩ := i.onGrid_missed none
  intro inside
  rcases Nat.lt_or_ge (i.below grid) d with after | upto
  · refine right (inside.sink ?_ (low.trans most))
    gcongr
    exact after
  · refine left (inside.rise ?_ (least.trans_lt high))
    gcongr

theorem onGrid_none (proper : i.Proper) (none : i.onGrid? grid = none) :
    ((i.high : ℚ) - i.low) * 2 ^ i.exponent ≤ 10 ^ grid := by
  obtain ⟨least, most⟩ := i.below_spec grid
  obtain ⟨beyond, under⟩ := proper.bounds
  obtain ⟨first, second⟩ := i.onGrid_missed none
  have left : (i.below grid * 10 ^ grid : ℚ) ≤ i.low * 2 ^ i.exponent := by
    by_contra more
    rw [not_le] at more
    exact first ⟨more.le, by linarith, fun _ => ⟨more, by linarith⟩⟩
  have right : (i.high * 2 ^ i.exponent : ℚ) ≤ (i.below grid + 1 : ℕ) * 10 ^ grid := by
    by_contra less
    rw [not_le] at less
    exact second ⟨by linarith, less.le, fun _ => ⟨by linarith, less⟩⟩
  push_cast at right
  linarith

/-- If any of the grids has a point, the first such grid is taken. -/
theorem coarsest_spec (steps : Nat) (top : Int)
    (reached : ∃ grid d, top - steps < grid ∧ grid ≤ top ∧ i.onGrid? grid = some d) :
    let x := i.coarsest steps top
    i.onGrid? x.exponent = some x.digits ∧ x.exponent ≤ top ∧
      (x.exponent = top ∨ i.onGrid? (x.exponent + 1) = none) := by
  induction steps generalizing top with
  | zero =>
    obtain ⟨grid, d, after, upto, -⟩ := reached
    omega
  | succ steps ih =>
    unfold coarsest
    cases found : i.onGrid? top with
    | some d => exact ⟨found, Int.le_refl _, .inl rfl⟩
    | none =>
      obtain ⟨grid, d, after, upto, some_point⟩ := reached
      have finer : grid ≠ top := by
        rintro rfl
        cases found.symm.trans some_point
      obtain ⟨point, lower, next⟩ := ih (top - 1) ⟨grid, d, by omega, by omega, some_point⟩
      refine ⟨point, by dsimp only; omega, .inr ?_⟩
      rcases next with same | empty
      · dsimp only
        rw [same, Int.sub_add_cancel]
        exact found
      · exact empty

end Interval

theorem proper_intervalOf (f : Format) (positive : 0 < m) (q : Int) :
    (intervalOf f m q).Proper := by
  constructor
  · unfold intervalOf
    dsimp only
    split <;> omega
  · exact Nat.lt_add_of_pos_right (by decide)

theorem low_intervalOf (f : Format) (positive : 0 < m) (q : Int) :
    ((intervalOf f m q).low : ℚ) = 4 * (m - gapBelow f m q) := by
  unfold intervalOf gapBelow
  dsimp only
  rw [twoTo_eq]
  split
  · rw [Nat.cast_sub (by omega)]
    push_cast
    ring
  · rw [Nat.cast_sub (by omega)]
    push_cast
    ring

theorem contains_intervalOf (positive : 0 < m) :
    (intervalOf f m q).Contains y ↔ Inside f m q y := by
  have quarter : (2 : ℚ) ^ (q - 2) = 2 ^ q / 4 := by
    rw [zpow_sub₀ (by norm_num)]
    norm_num
  have low : ((intervalOf f m q).low : ℚ) * 2 ^ (intervalOf f m q).exponent =
      (m - gapBelow f m q) * 2 ^ q := by
    change _ * (2 : ℚ) ^ (q - 2) = _
    rw [low_intervalOf f positive, quarter]
    ring
  have high : ((intervalOf f m q).high : ℚ) * 2 ^ (intervalOf f m q).exponent =
      (m + 1 / 2) * 2 ^ q := by
    change ((4 * m + 2 : ℕ) : ℚ) * 2 ^ (q - 2) = _
    rw [quarter]
    push_cast
    ring
  have odd : (intervalOf f m q).closed = false ↔ m % 2 = 1 := by
    change decide (m % 2 = 0) = false ↔ _
    rw [decide_eq_false_iff_not]
    omega
  constructor
  · rintro ⟨least, most, inner⟩
    rw [low, high, odd] at *
    exact ⟨least, most, inner⟩
  · rintro ⟨least, most, inner⟩
    refine ⟨?_, ?_, ?_⟩ <;> simp only [low, high, odd] <;> assumption

/-! Powers of two between powers of ten -/

theorem placed : ∀ k < 401, let n : Int := (k : Nat) - 200
    let t := n * 30103 / 100000
    let unit : Interval := ⟨1, 1, 1, n, true⟩
    unit.decimalSide t 1 ≤ unit.binarySide t 1 ∧
      unit.binarySide (t + 1) 1 < unit.decimalSide (t + 1) 1 := by
  decide +kernel

theorem decimal_place {n : Int} (low : -200 ≤ n) (high : n ≤ 200) :
    (10 : ℚ) ^ (n * 30103 / 100000) ≤ 2 ^ n ∧ (2 : ℚ) ^ n < 10 ^ (n * 30103 / 100000 + 1) := by
  have found := placed (n + 200).toNat (by omega)
  have same : (((n + 200).toNat : Nat) : Int) - 200 = n := by omega
  dsimp only at found
  rw [same] at found
  obtain ⟨least, most⟩ := found
  rw [Interval.decimal_le_binary] at least
  rw [← Nat.not_le, Interval.decimal_le_binary, not_le] at most
  simpa using And.intro least most

/-! The decimal found -/

/-- A decimal in the rounding interval, on the coarsest grid with a point there. -/
structure Shortened (m : Nat) (q : Int) (x : Scaled) : Prop where
  inside : Inside single m q (x.digits * 10 ^ x.exponent)
  coarse : (1 / 2 + gapBelow single m q) * 2 ^ q ≤ 10 ^ (x.exponent + 1)
  coarsest : ∀ d : Nat, ¬ Inside single m q (d * 10 ^ (x.exponent + 1))
  small : x.exponent ≤ 40

theorem width_intervalOf (f : Format) (positive : 0 < m) (q : Int) :
    (((intervalOf f m q).high : ℚ) - (intervalOf f m q).low) * 2 ^ (intervalOf f m q).exponent =
      (1 / 2 + gapBelow f m q) * 2 ^ q := by
  have high : ((intervalOf f m q).high : ℚ) = 4 * m + 2 := by
    change ((4 * m + 2 : ℕ) : ℚ) = _
    push_cast
    rfl
  change _ * (2 : ℚ) ^ (q - 2) = _
  rw [low_intervalOf f positive, high, zpow_sub₀ (by norm_num)]
  ring

theorem le_gapBelow (f : Format) (m : Nat) (q : Int) : 1 / 4 ≤ gapBelow f m q := by
  unfold gapBelow
  split <;> norm_num

/-- The value is far below the top grid, and the last grid that is tried is finer than the
interval. -/
theorem topGrid_spec (fits : Fits single m q) (positive : 0 < m) :
    (m : ℚ) * 2 ^ q < 10 ^ (topGrid m q - 1) ∧
      (10 : ℚ) ^ (topGrid m q - 27) < 3 / 4 * 2 ^ q ∧ topGrid m q ≤ 40 := by
  have unit : (0 : ℚ) < 2 ^ q := by positivity
  have narrow : m < 2 ^ 24 := fits.narrow
  have least : -149 ≤ q := fits.least
  have room : q + 24 ≤ 128 := fits.room
  have length := (Nat.log2_lt (Nat.ne_of_gt positive)).mpr narrow
  have whole : (m : ℚ) < 2 ^ ((m.log2 : Int) + 1) := by
    exact_mod_cast (Nat.lt_log2_self : m < 2 ^ (m.log2 + 1))
  obtain ⟨low, high⟩ := decimal_place (n := (m.log2 : Int) + 1 + q) (by omega) (by omega)
  have top : topGrid m q = ((m.log2 : Int) + 1 + q) * 30103 / 100000 + 2 := rfl
  have small : topGrid m q ≤ 40 := by omega
  generalize ((m.log2 : Int) + 1 + q) * 30103 / 100000 = place at *
  refine ⟨?_, ?_, small⟩
  · calc (m : ℚ) * 2 ^ q < 2 ^ ((m.log2 : Int) + 1) * 2 ^ q := by gcongr
      _ = 2 ^ ((m.log2 : Int) + 1 + q) := by rw [← zpow_add₀ (by norm_num)]
      _ < 10 ^ (place + 1) := high
      _ = 10 ^ (topGrid m q - 1) := by rw [top]; congr 1; omega
  · calc (10 : ℚ) ^ (topGrid m q - 27) = 10 ^ place / 10 ^ 25 := by
          rw [top, ← zpow_natCast, ← zpow_sub₀ (by norm_num)]
          congr 1
          omega
      _ ≤ 2 ^ ((m.log2 : Int) + 1 + q) / 10 ^ 25 := by gcongr
      _ ≤ 2 ^ ((24 : ℤ) + q) / 10 ^ 25 := by
          gcongr
          · norm_num
          · omega
      _ = 2 ^ 24 / 10 ^ 25 * 2 ^ q := by
          rw [zpow_add₀ (by norm_num)]
          norm_num
          ring
      _ < 3 / 4 * 2 ^ q := mul_lt_mul_of_pos_right (by norm_num) unit

theorem shortest_found (fits : Fits single m q) (positive : 0 < m) :
    let i := intervalOf single m q
    let x := shortest single m q
    i.onGrid? x.exponent = some x.digits ∧ x.exponent ≤ topGrid m q ∧
      (x.exponent = topGrid m q ∨ i.onGrid? (x.exponent + 1) = none) := by
  have unit : (0 : ℚ) < 2 ^ q := by positivity
  have gap := le_gapBelow single m q
  obtain ⟨-, fine, -⟩ := topGrid_spec fits positive
  have same : shortest single m q = (intervalOf single m q).coarsest 28 (topGrid m q) :=
    if_neg (Nat.ne_of_gt positive)
  rw [same]
  refine Interval.coarsest_spec _ 28 _ ?_
  cases found : (intervalOf single m q).onGrid? (topGrid m q - 27) with
  | some d => exact ⟨_, d, by omega, by omega, found⟩
  | none =>
    have coarse := Interval.onGrid_none _ (proper_intervalOf single positive q) found
    rw [width_intervalOf single positive] at coarse
    nlinarith

theorem shortest_spec (fits : Fits single m q) (positive : 0 < m) :
    Shortened m q (shortest single m q) := by
  have unit : (0 : ℚ) < 2 ^ q := by positivity
  have some_unit : (1 : ℚ) ≤ m := by exact_mod_cast positive
  have proper := proper_intervalOf single positive q
  have half := gapBelow_le single m q
  obtain ⟨far, -, small⟩ := topGrid_spec fits positive
  obtain ⟨point, upto, next⟩ := shortest_found fits positive
  have step : (10 : ℚ) ^ (topGrid m q + 1) = 100 * 10 ^ (topGrid m q - 1) := by
    have two : topGrid m q + 1 = 2 + (topGrid m q - 1) := by omega
    rw [two, zpow_add₀ (by norm_num)]
    norm_num
  refine ⟨?_, ?_, ?_, by omega⟩
  · exact (contains_intervalOf positive).mp
      ((Interval.holds_iff _).mp (Interval.onGrid_holds _ point))
  · rcases next with top | empty
    · rw [top, step]
      nlinarith
    · have coarse := Interval.onGrid_none _ proper empty
      rwa [width_intervalOf single positive] at coarse
  · intro d inside
    rcases next with top | empty
    · -- Above the top grid nothing is left but zero and what is far too large.
      obtain ⟨low, high, -⟩ := inside
      rw [top, step] at low high
      rcases Nat.eq_zero_or_pos d with rfl | some_step
      · rw [Nat.cast_zero, zero_mul] at low
        nlinarith
      · have power : (0 : ℚ) < 10 ^ (topGrid m q - 1) := by positivity
        have onwards : (1 : ℚ) ≤ d := by exact_mod_cast some_step
        have reached := high.trans' (le_mul_of_one_le_left (by positivity) onwards)
        have upto : ((m : ℚ) + 1 / 2) * 2 ^ q ≤ 2 * (m * 2 ^ q) := by nlinarith
        linarith
    · exact Interval.onGrid_empty _ proper empty d ((contains_intervalOf positive).mpr inside)

namespace Shortened

variable {x : Scaled}

theorem pos (short : Shortened m q x) (positive : 0 < m) : 0 < x.digits := by
  have unit : (0 : ℚ) < 2 ^ q := by positivity
  have some_unit : (1 : ℚ) ≤ m := by exact_mod_cast positive
  have half := gapBelow_le single m q
  have low := short.inside.low
  refine Nat.pos_of_ne_zero fun zero => ?_
  rw [zero, Nat.cast_zero, zero_mul] at low
  nlinarith

theorem digits_lt (short : Shortened m q x) (fits : Fits single m q) : x.digits < 2 ^ 28 := by
  have ten : (0 : ℚ) < 10 ^ x.exponent := by positivity
  have unit : (0 : ℚ) < 2 ^ q := by positivity
  have narrow : (m : ℚ) + 1 ≤ 2 ^ 24 := by exact_mod_cast fits.narrow
  have gap := le_gapBelow single m q
  have coarse := short.coarse
  rw [zpow_add₀ (by norm_num), zpow_one] at coarse
  have bound : (x.digits : ℚ) * 10 ^ x.exponent < 2 ^ 28 * 10 ^ x.exponent :=
    calc (x.digits : ℚ) * 10 ^ x.exponent ≤ (m + 1 / 2) * 2 ^ q := short.inside.high
      _ ≤ 2 ^ 24 * 2 ^ q := by gcongr; linarith
      _ < 2 ^ 28 * 10 ^ x.exponent := by nlinarith
  exact_mod_cast lt_of_mul_lt_mul_right bound ten.le

theorem least_exponent (short : Shortened m q x) (fits : Fits single m q) : -46 ≤ x.exponent := by
  have least : -149 ≤ q := fits.least
  have gap := le_gapBelow single m q
  have bound : (10 : ℚ) ^ (-46 : ℤ) < 10 ^ (x.exponent + 1) :=
    calc (10 : ℚ) ^ (-46 : ℤ) < 3 / 4 * 2 ^ (-149 : ℤ) := by norm_num
      _ ≤ (1 / 2 + gapBelow single m q) * 2 ^ q := by
          gcongr
          · linarith
          · norm_num
      _ ≤ 10 ^ (x.exponent + 1) := short.coarse
  have := (zpow_lt_zpow_iff_right₀ (by norm_num : (1 : ℚ) < 10)).mp bound
  omega

end Shortened

end CodeAtlas.Decimal
