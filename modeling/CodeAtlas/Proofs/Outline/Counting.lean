import CodeAtlas.Proofs.Outline.Block
import Mathlib.Algebra.Order.Ring.Int
import Mathlib.Data.List.Infix

/-!
Braces and brackets counted in 32 bits. A counter holds the number it counts modulo its width, so
counts add up along a text whatever overflows on the way. In a text with few brackets nothing
overflows, and every count is read back exactly.
-/
namespace CodeAtlas.Outline

def total (shift : Char → Int32) (s : Line) : Int := (s.map fun c => (shift c).toInt).sum

def isBracket (c : Char) : Bool := bracketShift c != 0

/-- Fewer brackets than a counter has room for, with one to spare. -/
def FewBrackets (s : Line) : Prop := s.countP isBracket + 1 < 2 ^ 31

instance (s : Line) : Decidable (FewBrackets s) := inferInstanceAs (Decidable (_ < _))

/-- No count on the way through the text leaves the range of the counter, nor does one more. -/
def StaysInRange (shift : Char → Int32) (s : Line) : Prop :=
  ∀ front, front <+: s → -2 ^ 31 ≤ total shift front ∧ total shift front + 1 < 2 ^ 31

variable {shift : Char → Int32} {s t : Line} {lines : List Line} {i : Nat}

theorem total_cons (c : Char) (s : Line) : total shift (c :: s) = (shift c).toInt + total shift s :=
  List.sum_cons

theorem total_append (s t : Line) : total shift (s ++ t) = total shift s + total shift t := by
  rw [total, List.map_append, List.sum_append, total, total]

theorem ofInt_total (s : Line) : (s.map shift).sum = Int32.ofInt (total shift s) := by
  induction s with
  | nil => rfl
  | cons c s ih =>
    rw [List.map_cons, List.sum_cons, ih, total_cons, Int32.ofInt_add, Int32.ofInt_toInt]

theorem ofInt_eq_zero_iff (n : Int) : Int32.ofInt n = 0 ↔ (2 : Int) ^ 32 ∣ n := by
  rw [← Int32.toInt_inj, Int32.toInt_ofInt]
  exact Int.dvd_iff_bmod_eq_zero.symm

structure Counts (shift : Char → Int32) : Prop where
  small : ∀ c, -1 ≤ (shift c).toInt ∧ (shift c).toInt ≤ 1
  others : ∀ c, isBracket c = false → shift c = 0

theorem counts_bracketShift : Counts bracketShift where
  small := by
    intro c
    unfold bracketShift
    split
    · decide
    · split <;> decide
  others := fun c other => by simpa [isBracket] using other

theorem counts_braceShift : Counts braceShift where
  small := by
    intro c
    unfold braceShift
    split
    · decide
    · split <;> decide
  others := by
    intro c other
    have plain : bracketShift c = 0 := by simpa [isBracket] using other
    unfold braceShift
    split
    · rename_i opening
      subst opening
      exact absurd plain (by decide)
    · split
      · rename_i closing
        subst closing
        exact absurd plain (by decide)
      · rfl

namespace Counts

variable (counts : Counts shift)

include counts

theorem total_le (s : Line) :
    -(s.countP isBracket : Int) ≤ total shift s ∧ total shift s ≤ s.countP isBracket := by
  induction s with
  | nil => exact ⟨Int.le_refl 0, Int.le_refl 0⟩
  | cons c s ih =>
    obtain ⟨least, most⟩ := counts.small c
    rw [total_cons, List.countP_cons]
    cases bracket : isBracket c with
    | true =>
      rw [if_pos rfl]
      omega
    | false =>
      have nothing : (shift c).toInt = 0 := congrArg Int32.toInt (counts.others c bracket)
      rw [if_neg Bool.false_ne_true]
      omega

theorem staysInRange (few : FewBrackets t) (piece : s <:+: t) : StaysInRange shift s := by
  intro front begins
  have bound := counts.total_le front
  have fewer := (begins.isInfix.trans piece).sublist.countP_le (p := isBracket)
  unfold FewBrackets at few
  omega

theorem dvd_total_iff (few : FewBrackets t) (piece : s <:+: t) :
    (2 : Int) ^ 32 ∣ total shift s ↔ total shift s = 0 := by
  obtain ⟨least, most⟩ := counts.staysInRange few piece s (List.prefix_refl s)
  constructor
  · rintro ⟨n, times⟩
    omega
  · exact fun none => none ▸ Int.dvd_zero _

end Counts

theorem StaysInRange.toInt_sum (inRange : StaysInRange shift s) :
    (s.map shift).sum.toInt = total shift s := by
  obtain ⟨least, most⟩ := inRange s (List.prefix_refl s)
  rw [ofInt_total, Int32.toInt_ofInt_of_le least (by omega)]

/-! Braces -/

theorem braceNet_eq_sum (s : Line) : braceNet s = (s.map braceShift).sum := by
  rw [braceNet, List.sum, List.foldr_map]

theorem braceNet_eq_ofInt (s : Line) : braceNet s = Int32.ofInt (total braceShift s) := by
  rw [braceNet_eq_sum, ofInt_total]

theorem braceNet_append (s t : Line) : braceNet (s ++ t) = braceNet s + braceNet t := by
  rw [braceNet_eq_sum, List.map_append, List.sum_append, ← braceNet_eq_sum, ← braceNet_eq_sum]

theorem toInt_braceNet (few : FewBrackets t) (piece : s <:+: t) :
    (braceNet s).toInt = total braceShift s := by
  rw [braceNet_eq_sum, (counts_braceShift.staysInRange few piece).toInt_sum]

theorem total_braceShift (s : Line) :
    total braceShift s = s.count (Char.ofNat 0x7B) - s.count (Char.ofNat 0x7D) := by
  induction s with
  | nil => rfl
  | cons c s ih =>
    have apart : Char.ofNat 0x7B ≠ Char.ofNat 0x7D := by decide
    rw [total_cons, ih, List.count_cons, List.count_cons, braceShift]
    by_cases opening : c = Char.ofNat 0x7B
    · subst opening
      simp
      omega
    · by_cases closing : c = Char.ofNat 0x7D
      · subst closing
        simp [apart.symm]
        omega
      · simp [opening, closing]

def depthAt (lines : List Line) (i : Nat) : Int32 := (depthProfile lines)[i]?.getD 0

theorem depthsFrom_get (depth : Int32) (inside : i < lines.length) :
    (depthsFrom depth lines)[i]? = some (depth + braceNet (lines.take i).flatten) := by
  induction lines generalizing depth i with
  | nil => exact absurd inside (Nat.not_lt_zero i)
  | cons line lines ih =>
    cases i with
    | zero => exact congrArg some (Int32.add_zero depth).symm
    | succ i =>
      rw [depthsFrom, List.getElem?_cons_succ, ih _ (Nat.lt_of_succ_lt_succ inside),
        List.take_succ_cons, List.flatten_cons, braceNet_append, Int32.add_assoc]

theorem depthAt_eq (inside : i < lines.length) :
    depthAt lines i = braceNet (lines.take i).flatten := by
  rw [depthAt, depthProfile, depthsFrom_get 0 inside, Option.getD_some, Int32.zero_add]

theorem toInt_depthAt (few : FewBrackets lines.flatten) (inside : i < lines.length) :
    (depthAt lines i).toInt = total braceShift (lines.take i).flatten := by
  rw [depthAt_eq inside, toInt_braceNet few (List.take_prefix i lines).isInfix.flatten]

theorem toInt_depthAt_succ (few : FewBrackets lines.flatten) (inside : i < lines.length) :
    (depthAt lines i + 1).toInt = (depthAt lines i).toInt + 1 := by
  have piece := (List.take_prefix i lines).isInfix.flatten
  have room := counts_braceShift.staysInRange few piece _ (List.prefix_refl _)
  rw [← toInt_depthAt few inside] at room
  rw [Int32.toInt_add, Int32.toInt_one]
  exact Int.bmod_eq_of_le (by omega) (by omega)

end CodeAtlas.Outline
