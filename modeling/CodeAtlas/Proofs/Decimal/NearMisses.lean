import CodeAtlas.Proofs.Decimal.Restoring
import CodeAtlas.Proofs.Decimal.Shortest

/-!
Decimals next to a boundary between two values. A double is off by a tiny share of the decimal it
was read for, so only a decimal within that share of a boundary can be rounded across it. Decimals
on one grid and boundaries on another make up a lattice in the plane, of which the near misses are
the points in a long and narrow box: two short vectors, found as convergents of the grids' ratio,
leave a handful of points for each pair of grids, and these are gone through.
-/
namespace CodeAtlas.Decimal

variable {d M : Int} {m : Nat} {q e : Int}

def survives (m : Nat) (q : Int) : Bool :=
  let x := shortest single m q
  match Json.scaled? 8 (doubleOfNat x.digits) x.exponent with
  | some y => roundsTo y m q
  | none => false

def isValue (m : Nat) (q : Int) : Bool :=
  0 < m && m < 2 ^ 24 && (q = -149 || 2 ^ 23 ≤ m)

structure Mesh where
  ten : Nat
  two : Nat
  deriving DecidableEq, Repr

namespace Mesh

def of (q e : Int) : Mesh :=
  ⟨5 ^ e.toNat * 2 ^ (e - q + 1).toNat, 5 ^ (-e).toNat * 2 ^ (q - 1 - e).toNat⟩

structure Vec where
  tens : Nat
  twos : Nat
  apart : Nat
  deriving DecidableEq, Repr

variable (g : Mesh)

def gap (d M : Int) : Int := d * g.ten - M * g.two

def slack : Nat := g.two / 2 ^ 26

def reach : Nat := 2 ^ 25 * g.two / g.ten

/-- Convergents of the ratio of the grids, until the second is as short in one direction of the box
as in the other. -/
def basis : Nat → Vec → Vec → Vec × Vec
  | 0, u, v => (u, v)
  | fuel + 1, u, v =>
    if g.reach * v.apart ≤ v.tens * g.slack then (u, v)
    else
      let n := u.apart / v.apart
      basis fuel v ⟨u.tens + n * v.tens, u.twos + n * v.twos, u.apart % v.apart⟩

def bound (v : Vec) : Nat := (v.tens * g.slack + g.reach * v.apart) / g.two

def isNearMiss (d M : Int) : Bool :=
  0 < d && 0 < M && M < 2 ^ 25 && M % 2 = 1 && g.gap d M ≠ 0 && (g.gap d M).natAbs ≤ g.slack

def harmless (q d M : Int) : Bool :=
  let m := (M / 2).toNat
  !g.isNearMiss d M ||
    ((!isValue m q || survives m q) && (!isValue (m + 1) q || survives (m + 1) q))

def isBasis (u v : Vec) : Bool :=
  (g.gap u.tens u.twos).natAbs = u.apart && (g.gap v.tens v.twos).natAbs = v.apart &&
    (u.tens * v.twos = v.tens * u.twos + 1 || v.tens * u.twos = u.tens * v.twos + 1)

/-- All near misses are harmless, unless the grid of decimals is finer than any that is used. -/
def clear (q : Int) : Bool :=
  let (u, v) := g.basis 80 ⟨1, 0, g.ten⟩ ⟨0, 1, g.two⟩
  let i := g.bound v
  let j := g.bound u
  5 * g.ten < g.two || g.slack = 0 || g.isBasis u v &&
    (List.range (2 * i + 1)).all fun a => (List.range (2 * j + 1)).all fun b =>
      g.harmless q (((a : Int) - i) * u.tens + (b - j) * v.tens)
        (((a : Int) - i) * u.twos + (b - j) * v.twos)

/-! All near misses lie in the box -/

variable {g} {u v : Vec}

/-- A basis of the lattice reaches all its points. -/
theorem coordinates (unimodular : (u.tens * v.twos : Int) = v.tens * u.twos + 1 ∨
    (v.tens * u.twos : Int) = u.tens * v.twos + 1) (d M : Int) :
    ∃ a b : Int, d = a * u.tens + b * v.tens ∧ M = a * u.twos + b * v.twos ∧
      a.natAbs = (d * v.twos - M * v.tens).natAbs ∧
      b.natAbs = (d * u.twos - M * u.tens).natAbs := by
  rcases unimodular with ahead | behind
  · refine ⟨d * v.twos - M * v.tens, M * u.tens - d * u.twos, ?_, ?_, rfl, ?_⟩
    · linear_combination (-d) * ahead
    · linear_combination (-M) * ahead
    · omega
  · refine ⟨M * v.tens - d * v.twos, d * u.twos - M * u.tens, ?_, ?_, ?_, rfl⟩
    · linear_combination (-d) * behind
    · linear_combination (-M) * behind
    · omega

/-- How far a point of the box is from the line of a vector. -/
theorem crossing_le {w : Vec} (some_two : 0 < g.two)
    (apart : (g.gap w.tens w.twos).natAbs = w.apart)
    (near : (g.gap d M).natAbs ≤ g.slack) (far : d.natAbs ≤ g.reach) :
    (d * w.twos - M * w.tens).natAbs ≤ g.bound w := by
  have crossed : (d * w.twos - M * w.tens) * g.two =
      w.tens * g.gap d M - d * g.gap w.tens w.twos := by
    unfold gap
    ring
  unfold bound
  rw [Nat.le_div_iff_mul_le some_two]
  calc (d * w.twos - M * w.tens).natAbs * g.two
      = ((d * w.twos - M * w.tens) * g.two).natAbs := by rw [Int.natAbs_mul, Int.natAbs_natCast]
    _ = (w.tens * g.gap d M - d * g.gap w.tens w.twos).natAbs := by rw [crossed]
    _ ≤ (w.tens * g.gap d M).natAbs + (d * g.gap w.tens w.twos).natAbs := Int.natAbs_sub_le _ _
    _ = w.tens * (g.gap d M).natAbs + d.natAbs * w.apart := by
        rw [Int.natAbs_mul, Int.natAbs_mul, Int.natAbs_natCast, apart]
    _ ≤ w.tens * g.slack + g.reach * w.apart := by gcongr

theorem isNearMiss_iff : g.isNearMiss d M = true ↔
    0 < d ∧ 0 < M ∧ M < 2 ^ 25 ∧ M % 2 = 1 ∧ g.gap d M ≠ 0 ∧ (g.gap d M).natAbs ≤ g.slack := by
  simp [isNearMiss, and_assoc]

theorem le_reach (some_ten : 0 < g.ten) (positive : 0 < d) (most : M < 2 ^ 25)
    (near : (g.gap d M).natAbs ≤ g.slack) : d.natAbs ≤ g.reach := by
  have slack : g.slack ≤ g.two := Nat.div_le_self _ _
  have product : d * g.ten = M * g.two + g.gap d M := by
    unfold gap
    ring
  have upto : M * g.two ≤ (2 ^ 25 - 1) * g.two :=
    Int.mul_le_mul_of_nonneg_right (by omega) (by omega)
  unfold reach
  rw [Nat.le_div_iff_mul_le some_ten, ← Int.ofNat_le]
  push_cast
  rw [abs_of_pos positive]
  omega

theorem all_range {n : Nat} {p : Nat → Bool} (all : (List.range (2 * n + 1)).all p = true) {a : Int}
    (small : a.natAbs ≤ n) : ∃ k : Nat, p k = true ∧ (k : Int) - n = a := by
  refine ⟨(a + n).toNat, List.all_eq_true.mp all _ (List.mem_range.mpr ?_), ?_⟩ <;> omega

theorem harmless_of_clear (clear : g.clear q = true) (some_ten : 0 < g.ten) (some_two : 0 < g.two)
    (coarse : g.two ≤ 5 * g.ten) (miss : g.isNearMiss d M = true) : g.harmless q d M = true := by
  obtain ⟨positive, -, most, -, apart, near⟩ := isNearMiss_iff.mp miss
  have far := le_reach some_ten positive most near
  unfold Mesh.clear at clear
  obtain ⟨u, v⟩ := g.basis 80 ⟨1, 0, g.ten⟩ ⟨0, 1, g.two⟩
  simp only [Bool.or_eq_true, Bool.and_eq_true, decide_eq_true_eq, isBasis] at clear
  rcases clear with (fine | none) | ⟨⟨⟨first, second⟩, unimodular⟩, all⟩
  · omega
  · omega
  · obtain ⟨a, b, rfl, rfl, here, there⟩ := coordinates (by exact_mod_cast unimodular) d M
    have left := crossing_le some_two second near far
    have right := crossing_le some_two first near far
    rw [← here] at left
    rw [← there] at right
    obtain ⟨k, others, rfl⟩ := all_range all left
    obtain ⟨l, found, rfl⟩ := all_range others right
    exact found

end Mesh

/-- Every exponent of single precision goes with the grids from the width of an interval up to the
largest value of that exponent. -/
theorem all_clear : ∀ k < 254, ∀ j < 10, let q : Int := (k : Nat) - 149
    (Mesh.of q (q * 30103 / 100000 - 1 + (j : Nat))).clear q = true := by
  decide +kernel

theorem powers_survive : ∀ k < 253, survives (2 ^ 23) ((k : Nat) - 148) = true := by
  decide +kernel

end CodeAtlas.Decimal
