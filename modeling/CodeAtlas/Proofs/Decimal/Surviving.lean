import CodeAtlas.Proofs.Decimal.NearMisses

/-!
Reading back the shortest decimal. The text is written for a value in single precision and read as
a double, so it is rounded twice; still the value comes back, since no shortest decimal is so close
to a boundary that the first rounding takes it across.
-/
namespace CodeAtlas.Decimal

variable {d M : Nat} {m : Nat} {q e : Int} {v w share : ℚ}

theorem two_pow_pred (q : Int) : (2 : ℚ) ^ q = 2 * 2 ^ (q - 1) := by
  rw [zpow_sub₀ (by norm_num), zpow_one]
  ring

namespace Mesh

theorem ten_pos (q e : Int) : 0 < (of q e).ten :=
  Nat.mul_pos (Nat.pow_pos (by decide)) (Nat.two_pow_pos _)

theorem two_pos (q e : Int) : 0 < (of q e).two :=
  Nat.mul_pos (Nat.pow_pos (by decide)) (Nat.two_pow_pos _)

theorem ratio_of (q e : Int) :
    ((of q e).ten : ℚ) * 2 ^ (q - 1) = 10 ^ e * (of q e).two := by
  have five := pow_toNat 5 (by norm_num) e
  have two := pow_toNat 2 (by norm_num) (e - q + 1)
  have back : -(e - q + 1) = q - 1 - e := by omega
  have ten : (10 : ℚ) ^ e = 5 ^ e * 2 ^ e := by
    rw [← mul_zpow]
    norm_num
  have shift : (2 : ℚ) ^ (e - q + 1) * 2 ^ (q - 1) = 2 ^ e := by
    rw [← zpow_add₀ (by norm_num)]
    congr 1
    omega
  rw [back] at two
  unfold of
  push_cast
  rw [five, two, ten, ← shift]
  ring

/-- The distance of a decimal from a boundary, in steps of the boundaries. -/
theorem gap_eq (q e : Int) (d M : Nat) :
    ((of q e).gap d M : ℚ) * 2 ^ (q - 1) = (d * 10 ^ e - M * 2 ^ (q - 1)) * (of q e).two := by
  have ratio := ratio_of q e
  unfold gap
  push_cast
  linear_combination (d : ℚ) * ratio

theorem near_of_close (close : |(d : ℚ) * 10 ^ e - M * 2 ^ (q - 1)| ≤ 2 ^ (q - 1) / 2 ^ 26) :
    ((of q e).gap d M).natAbs ≤ (of q e).slack := by
  have unit : (0 : ℚ) < 2 ^ (q - 1) := by positivity
  have two : (0 : ℚ) < (of q e).two := by exact_mod_cast two_pos q e
  have scaled : |((of q e).gap d M : ℚ)| * 2 ^ 26 * 2 ^ (q - 1) ≤ (of q e).two * 2 ^ (q - 1) :=
    calc |((of q e).gap d M : ℚ)| * 2 ^ 26 * 2 ^ (q - 1)
        = |((of q e).gap d M : ℚ) * 2 ^ (q - 1)| * 2 ^ 26 := by
          rw [abs_mul, abs_of_pos unit]
          ring
      _ = |(d : ℚ) * 10 ^ e - M * 2 ^ (q - 1)| * (of q e).two * 2 ^ 26 := by
          rw [gap_eq, abs_mul, abs_of_pos two]
      _ ≤ 2 ^ (q - 1) / 2 ^ 26 * (of q e).two * 2 ^ 26 := by gcongr
      _ = (of q e).two * 2 ^ (q - 1) := by ring
  have whole := le_of_mul_le_mul_right scaled unit
  unfold slack
  rw [Nat.le_div_iff_mul_le (by decide)]
  rw [← Int.cast_abs, Int.abs_eq_natAbs] at whole
  exact_mod_cast whole

theorem small_of_exact (some_digit : 0 < d) (some_step : 0 < M) (short : d < 2 ^ 28)
    (narrow : M < 2 ^ 25) (exact_value : (of q e).gap d M = 0) : e.natAbs ≤ 22 := by
  have same : d * (5 ^ e.toNat * 2 ^ (e - q + 1).toNat) =
      M * (5 ^ (-e).toNat * 2 ^ (q - 1 - e).toNat) := by
    unfold gap of at exact_value
    exact_mod_cast Int.sub_eq_zero.mp exact_value
  have coprime : ∀ i j : Nat, (5 ^ i).Coprime (2 ^ j) := fun i j =>
    Nat.Coprime.pow i j (by decide)
  have bound : ∀ {n : Nat}, 5 ^ n < 2 ^ 28 → n ≤ 22 := by
    intro n below
    have : 5 ^ n < 5 ^ 23 := lt_trans below (by decide)
    have := (Nat.pow_lt_pow_iff_right (by decide)).mp this
    omega
  rcases Int.le_total 0 e with above | below
  · have flat : (-e).toNat = 0 := by omega
    rw [flat, Nat.pow_zero, Nat.one_mul] at same
    have divides : 5 ^ e.toNat ∣ M * 2 ^ (q - 1 - e).toNat :=
      ⟨d * 2 ^ (e - q + 1).toNat, by rw [← same]; ring⟩
    have least := Nat.le_of_dvd some_step ((coprime _ _).dvd_of_dvd_mul_right divides)
    have := bound (n := e.toNat) (by omega)
    omega
  · have flat : e.toNat = 0 := by omega
    rw [flat, Nat.pow_zero, Nat.one_mul] at same
    have divides : 5 ^ (-e).toNat ∣ d * 2 ^ (e - q + 1).toNat :=
      ⟨M * 2 ^ (q - 1 - e).toNat, by rw [same]; ring⟩
    have least := Nat.le_of_dvd some_digit ((coprime _ _).dvd_of_dvd_mul_right divides)
    have := bound (n := (-e).toNat) (by omega)
    omega

theorem clear_of_shortened {x : Scaled} (short : Shortened m q x) (fits : Fits single m q)
    (some_digit : 0 < x.digits) (regular : gapBelow single m q = 1 / 2) :
    (of q x.exponent).clear q = true ∧ (of q x.exponent).two ≤ 5 * (of q x.exponent).ten := by
  have least : -149 ≤ q := fits.least
  have room : q + 24 ≤ 128 := fits.room
  have narrow : (m : ℚ) + 1 ≤ 2 ^ 24 := by exact_mod_cast fits.narrow
  have unit : (0 : ℚ) < 2 ^ q := by positivity
  have digit : (1 : ℚ) ≤ x.digits := by exact_mod_cast some_digit
  have coarse := short.coarse
  rw [regular, add_halves, one_mul] at coarse
  obtain ⟨low, -⟩ := decimal_place (n := q) (by omega) (by omega)
  obtain ⟨-, high⟩ := decimal_place (n := q + 24) (by omega) (by omega)
  have onwards : q * 30103 / 100000 ≤ x.exponent + 1 :=
    (zpow_le_zpow_iff_right₀ (by norm_num)).mp (low.trans coarse)
  have below : (10 : ℚ) ^ x.exponent < 10 ^ ((q + 24) * 30103 / 100000 + 1) :=
    calc (10 : ℚ) ^ x.exponent ≤ x.digits * 10 ^ x.exponent :=
          le_mul_of_one_le_left (by positivity) digit
      _ ≤ (m + 1 / 2) * 2 ^ q := short.inside.high
      _ ≤ 2 ^ 24 * 2 ^ q := by gcongr; linarith
      _ = 2 ^ (q + 24) := by rw [zpow_add₀ (by norm_num), mul_comm]; rfl
      _ < 10 ^ ((q + 24) * 30103 / 100000 + 1) := high
  have upto := (zpow_lt_zpow_iff_right₀ (by norm_num)).mp below
  constructor
  · have found := all_clear (q + 149).toNat (by omega)
      (x.exponent - (q * 30103 / 100000 - 1)).toNat (by omega)
    have same : (((q + 149).toNat : Nat) : Int) - 149 = q := by omega
    have place : q * 30103 / 100000 - 1 +
        (((x.exponent - (q * 30103 / 100000 - 1)).toNat : Nat) : Int) = x.exponent := by omega
    dsimp only at found
    rwa [same, place] at found
  · have ratio := ratio_of q x.exponent
    have two : (0 : ℚ) < (of q x.exponent).two := by exact_mod_cast two_pos q x.exponent
    rw [zpow_add₀ (by norm_num), zpow_one, two_pow_pred q] at coarse
    have scaled : ((of q x.exponent).two : ℚ) * (2 * 2 ^ (q - 1)) ≤
        5 * (of q x.exponent).ten * (2 * 2 ^ (q - 1)) :=
      calc ((of q x.exponent).two : ℚ) * (2 * 2 ^ (q - 1))
          ≤ (of q x.exponent).two * (10 ^ x.exponent * 10) := by gcongr
        _ = 5 * (of q x.exponent).ten * (2 * 2 ^ (q - 1)) := by
          linear_combination (-10 : ℚ) * ratio
    exact_mod_cast le_of_mul_le_mul_right scaled (by positivity)

end Mesh

/-- What is rounded across a boundary was close to it. -/
theorem boundary_between (positive : 0 < m) (regular : gapBelow single m q = 1 / 2)
    (inside : Inside single m q v) (outside : ¬ Inside single m q w) (close : |w - v| ≤ share) :
    ∃ M, (M = 2 * m + 1 ∨ M + 1 = 2 * m) ∧ |v - M * 2 ^ (q - 1)| ≤ share := by
  obtain ⟨low, high, -⟩ := inside
  obtain ⟨least, most⟩ := abs_le.mp close
  have across : (m + 1 / 2) * 2 ^ q ≤ w ∨ w ≤ (m - 1 / 2) * 2 ^ q := by
    by_contra within
    obtain ⟨under, beyond⟩ := not_or.mp within
    rw [not_le] at under beyond
    rw [← regular] at beyond
    exact outside ⟨beyond.le, under.le, fun _ => ⟨beyond, under⟩⟩
  rw [regular] at low
  rcases across with above | below
  · refine ⟨2 * m + 1, .inl rfl, ?_⟩
    have boundary : ((2 * m + 1 : ℕ) : ℚ) * 2 ^ (q - 1) = (m + 1 / 2) * 2 ^ q := by
      rw [two_pow_pred q]
      push_cast
      ring
    rw [boundary, abs_le]
    constructor <;> linarith
  · refine ⟨2 * m - 1, .inr (by omega), ?_⟩
    have boundary : ((2 * m - 1 : ℕ) : ℚ) * 2 ^ (q - 1) = (m - 1 / 2) * 2 ^ q := by
      rw [two_pow_pred q, Nat.cast_sub (by omega)]
      push_cast
      ring
    rw [boundary, abs_le]
    constructor <;> linarith

theorem isValue_of_fits (fits : Fits single m q) (positive : 0 < m) : isValue m q = true := by
  have narrow : m < 2 ^ 24 := fits.narrow
  have full : q = -149 ∨ 2 ^ 23 ≤ m := fits.full
  simp only [isValue, Bool.and_eq_true, Bool.or_eq_true, decide_eq_true_eq]
  exact ⟨⟨positive, narrow⟩, full⟩

theorem survives_of_harmless {g : Mesh} (fits : Fits single m q) (positive : 0 < m)
    (beside : M = 2 * m + 1 ∨ M + 1 = 2 * m) (miss : g.isNearMiss d M = true)
    (harmless : g.harmless q d M = true) : survives m q = true := by
  have value := isValue_of_fits fits positive
  simp only [Mesh.harmless, miss, Bool.not_true, Bool.false_or, Bool.and_eq_true, Bool.or_eq_true,
    Bool.not_eq_true'] at harmless
  obtain ⟨lower, upper⟩ := harmless
  rcases beside with above | below
  · have same : ((M : Int) / 2).toNat = m := by omega
    rw [same, value] at lower
    exact lower.resolve_left (by decide)
  · have same : ((M : Int) / 2).toNat + 1 = m := by omega
    rw [same, value] at upper
    exact upper.resolve_left (by decide)

theorem worth_shortened {x : Scaled} (short : Shortened m q x) (fits : Fits single m q)
    (positive : 0 < m) :
    ∃ y w, Json.scaled? 8 (doubleOfNat x.digits) x.exponent = some y ∧ Worth y w ∧
      |w - x.digits * 10 ^ x.exponent| ≤ x.digits * 10 ^ x.exponent / 2 ^ 51 ∧
      ∀ (k : Nat) (j : Int), x.exponent.natAbs ≤ 22 → k < 2 ^ 53 →
        (x.digits : ℚ) * 10 ^ x.exponent = k * 2 ^ j → w = x.digits * 10 ^ x.exponent := by
  have digits := short.digits_lt fits
  have least := short.least_exponent fits
  have small := short.small
  exact worth_scaled (short.pos positive) (by omega) (by omega)

/-- The share by which a double is off, in steps of the boundaries. -/
theorem share_le (fits : Fits single m q) (inside : Inside single m q v) :
    v / 2 ^ 51 ≤ 2 ^ (q - 1) / 2 ^ 26 := by
  have whole : (m : ℚ) + 1 ≤ 2 ^ 24 := by exact_mod_cast fits.narrow
  calc v / 2 ^ 51 ≤ (m + 1 / 2) * 2 ^ q / 2 ^ 51 := by gcongr; exact inside.high
    _ ≤ 2 ^ 24 * 2 ^ q / 2 ^ 51 := by gcongr; linarith
    _ = 2 ^ (q - 1) / 2 ^ 26 := by rw [two_pow_pred q]; ring

theorem kept_on_boundary {x : Scaled}
    (apart : (Mesh.of q x.exponent).gap x.digits M = 0) :
    (x.digits : ℚ) * 10 ^ x.exponent = M * 2 ^ (q - 1) := by
  have two : ((Mesh.of q x.exponent).two : ℚ) ≠ 0 := by
    exact_mod_cast Nat.ne_of_gt (Mesh.two_pos _ _)
  have value := Mesh.gap_eq q x.exponent x.digits M
  rw [apart, Int.cast_zero, zero_mul, eq_comm, mul_eq_zero] at value
  exact sub_eq_zero.mp (value.resolve_right two)

/-- Every value in single precision comes back from the double read for its shortest decimal. -/
theorem survives_all (fits : Fits single m q) (positive : 0 < m) : survives m q = true := by
  have short := shortest_spec fits positive
  by_cases power : m = 2 ^ (single.precision - 1) ∧ single.leastExponent < q
  · obtain ⟨rfl, above⟩ := power
    have least : -149 < q := above
    have room : q + 24 ≤ 128 := fits.room
    have found := powers_survive (q + 148).toNat (by omega)
    have same : (((q + 148).toNat : Nat) : Int) - 148 = q := by omega
    rwa [same] at found
  · have regular : gapBelow single m q = 1 / 2 := if_neg power
    have narrow : m < 2 ^ 24 := fits.narrow
    obtain ⟨y, w, scaled, worth, close, exactly⟩ := worth_shortened short fits positive
    have read : survives m q = roundsTo y m q := by
      unfold survives
      dsimp only
      rw [scaled]
    generalize shortest single m q = x at *
    have some_digit := short.pos positive
    -- A lost value has its double across a boundary. The decimal is not on that boundary, where the
    -- double would be exact, so it is one of the near misses that have been gone through.
    by_contra lost
    have outside : ¬ Inside single m q w := fun inside =>
      lost (read.trans (roundsTo_of_inside worth fits inside))
    obtain ⟨M, beside, distance⟩ := boundary_between positive regular short.inside outside close
    by_cases apart : (Mesh.of q x.exponent).gap x.digits M = 0
    · have value := kept_on_boundary apart
      have small := Mesh.small_of_exact some_digit (by omega) (short.digits_lt fits) (by omega)
        apart
      have kept := exactly M (q - 1) small (by omega) value
      exact outside (kept ▸ short.inside)
    · have near := Mesh.near_of_close (distance.trans (share_le fits short.inside))
      have miss : (Mesh.of q x.exponent).isNearMiss x.digits M = true :=
        Mesh.isNearMiss_iff.mpr ⟨by omega, by omega, by omega, by omega, apart, near⟩
      obtain ⟨clear, coarse⟩ := Mesh.clear_of_shortened short fits some_digit regular
      exact lost (survives_of_harmless fits positive beside miss
        (Mesh.harmless_of_clear clear (Mesh.ten_pos _ _) (Mesh.two_pos _ _) coarse miss))

/-! Texts -/

def ReadsBack (text : Line) (x : Float32) : Prop :=
  ∃ n e y, Json.ReadsAs text n e ∧ Json.scaled? 8 (doubleOfNat n) e = some y ∧
    toSingle (if single.isNegative x.toBits.toNat then -y else y) = x

theorem readsBack_zero {x : Float32} (magnitude : single.magnitude x.toBits.toNat = .finite 0 q) :
    ReadsBack ['0', '.', '0'] x := by
  have reads : Json.ReadsAs ['0', '.', '0'] 0 (-1) :=
    Json.readsAs_fraction wholePart_zero (digits_zeros 1) (by decide) (by decide)
  refine ⟨0, -1, doubleOfNat 0 / Json.powerOfTen 1, reads, rfl, ?_⟩
  have bits := encode_magnitude x.toBits.toNat_lt magnitude
  have zero : single.encode (.finite 0 q) = 0 := rfl
  conv_rhs => rw [← Float32.ofBits_toBits x, ← UInt32.ofNat_toNat (x := x.toBits), ← bits, zero]
  cases single.isNegative x.toBits.toNat <;> decide +kernel

theorem worth_tenths {n e : Nat} (positive : 0 < n) (small : n * 10 ^ (e + 1) < 10 ^ 14) :
    ∃ y, Json.scaled? 8 (doubleOfNat (n * 10 ^ (e + 1))) (-1) = some y ∧ Worth y (n * 10 ^ e) := by
  have some_digit : 0 < n * 10 ^ (e + 1) := Nat.mul_pos positive (Nat.pow_pos (by decide))
  obtain ⟨y, w, scaled, worth, -, exactly⟩ :=
    worth_scaled (e := -1) some_digit (by omega) (by decide)
  have tenth : ((n * 10 ^ (e + 1) : ℕ) : ℚ) * 10 ^ (-1 : ℤ) = n * 10 ^ e := by
    rw [zpow_neg_one, pow_succ]
    push_cast
    ring
  have wider : n * 10 ^ e ≤ n * 10 ^ (e + 1) :=
    Nat.mul_le_mul_left n (Nat.pow_le_pow_right (by decide) (Nat.le_succ e))
  have value := exactly (n * 10 ^ e) 0 (by decide) (by omega) (by rw [tenth]; push_cast; ring)
  rw [tenth] at value
  exact ⟨y, scaled, value ▸ worth⟩

/-- The text of a value's magnitude is read back as the value, once the sign is added. -/
theorem readsBack_write {x : Float32} (magnitude : single.magnitude x.toBits.toNat = .finite m q) :
    ReadsBack (singleLayout.write (shortest single m q)) x := by
  have fits := fits_single magnitude
  rcases Nat.eq_zero_or_pos m with rfl | positive
  · exact readsBack_zero magnitude
  · have short := shortest_spec fits positive
    have survived := survives_all fits positive
    have some_digit := short.pos positive
    have least := short.least_exponent fits
    have small := short.small
    rcases readsAs_write some_digit singleLayout (by decide) (short.digits_lt fits) (by omega) with
      reads | ⟨e, same, room, reads⟩
    · obtain ⟨y, w, scaled, worth, -⟩ := worth_shortened short fits positive
      refine ⟨_, _, y, reads, scaled, toSingle_eq magnitude worth ?_⟩
      unfold survives at survived
      dsimp only at survived
      rwa [scaled] at survived
    · obtain ⟨y, scaled, worth⟩ := worth_tenths some_digit room
      have inside := short.inside
      rw [same, zpow_natCast] at inside
      exact ⟨_, _, y, reads, scaled,
        toSingle_eq magnitude worth (roundsTo_of_inside worth fits inside)⟩

end CodeAtlas.Decimal
