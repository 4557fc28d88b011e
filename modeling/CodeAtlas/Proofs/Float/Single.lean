import CodeAtlas.Proofs.Float.Operations

/-!
Arithmetic in single precision: how far up the leading bits of sums of squares, roots and quotients
stand, and how infinities and values that are not numbers carry over.
-/
namespace CodeAtlas.Rounding

open Float.Model UnpackedFloat

def unpacked (x : Float32) : UnpackedFloat := x.toModel.unpack

def repacked (x : UnpackedFloat) : UnpackedFloat :=
  UnpackedFloat.unpack Format.binary32 (UnpackedFloat.pack Format.binary32 x)

theorem unpacked_mul (x y : Float32) :
    unpacked (x * y) = repacked (UnpackedFloat.mul Format.binary32 (unpacked x) (unpacked y)) := rfl

theorem unpacked_add (x y : Float32) :
    unpacked (x + y) = repacked (UnpackedFloat.add Format.binary32 (unpacked x) (unpacked y)) := rfl

theorem unpacked_div (x y : Float32) :
    unpacked (x / y) = repacked (UnpackedFloat.div Format.binary32 (unpacked x) (unpacked y)) := rfl

theorem unpacked_sqrt (x : Float32) :
    unpacked x.sqrt = repacked (UnpackedFloat.sqrt Format.binary32 (unpacked x)) := rfl

theorem unpacked_zero : unpacked 0 = .zero .positive := rfl

theorem isFinite_eq (x : Float32) : x.isFinite = (unpacked x).isFinite := rfl

theorem lt_iff (x y : Float32) : x < y ↔ (unpacked x).lt (unpacked y) = true := by
  change decide (x.toModel < y.toModel) = true ↔ _
  rw [decide_eq_true_iff]
  exact Iff.rfl

section Format

theorem minExponent_single : Format.binary32.minExponent = -149 := by decide

theorem greatestExponent_single : greatestExponent Format.binary32 = 104 := by decide

theorem mantissaBits_single : Format.binary32.mantissaBits = 24 := by decide

theorem proper_single : Format.binary32.minExponent ≤ greatestExponent Format.binary32 := by
  rw [minExponent_single, greatestExponent_single]
  decide

theorem repacked_unpacked (x : Float32) : repacked (unpacked x) = unpacked x :=
  unpack_pack_unpack proper_single _

theorem repacked_infinity (s : Sign) : repacked (.infinity s) = .infinity s :=
  unpack_pack_infinity s

theorem repacked_zero (s : Sign) : repacked (.zero s) = .zero s := unpack_packedZero

theorem repacked_notANumber : repacked .notANumber = .notANumber := unpack_packedNaN

theorem repacked_rounded {s : Sign} {place : Int} {x : UnpackedFloat}
    (rounded : Rounded Format.binary32 s place x) :
    Stored Format.binary32 s place (repacked x) :=
  rounded.stored proper_single

theorem canonical_unpacked {x : Float32} {s : Sign} {m : Nat} {e : Int} {positive : 0 < m}
    (finite : unpacked x = .finite s m e positive) :
    Canonical Format.binary32 m e ∧ -149 < totalExponent m e := by
  obtain ⟨canonical, -⟩ := canonical_unpack proper_single finite
  obtain ⟨-, least, -⟩ := canonical_cases canonical
  rw [minExponent_single] at least
  refine ⟨canonical, ?_⟩
  unfold totalExponent
  omega

end Format

/-! Values that are not negative -/

def Nonnegative : UnpackedFloat → Prop
  | .infinity .positive | .zero _ | .finite .positive _ _ _ => True
  | _ => False

def place? : UnpackedFloat → Option Int
  | .finite _ m e _ => some (totalExponent m e)
  | _ => none

def Reaches (place : Int) : UnpackedFloat → Prop
  | .infinity .positive => True
  | .finite .positive m e _ => place ≤ totalExponent m e
  | _ => False

theorem Reaches.mono {p q : Int} {x : UnpackedFloat} (reaches : Reaches p x) (le : q ≤ p) :
    Reaches q x := by
  unfold Reaches at *
  split at reaches
  · trivial
  · exact Int.le_trans le reaches
  · exact reaches.elim

theorem reaches_cases {place : Int} {x : UnpackedFloat} (reaches : Reaches place x) :
    x = .infinity .positive ∨
      ∃ m e positive, x = .finite .positive m e positive ∧ place ≤ totalExponent m e := by
  unfold Reaches at reaches
  split at reaches
  · exact .inl rfl
  · exact .inr ⟨_, _, _, rfl, reaches⟩
  · exact reaches.elim

theorem nonnegative_cases {x : UnpackedFloat} (nonnegative : Nonnegative x) :
    x = .infinity .positive ∨ (∃ s, x = .zero s) ∨
      ∃ m e positive, x = .finite .positive m e positive := by
  unfold Nonnegative at nonnegative
  split at nonnegative
  · exact .inl rfl
  · exact .inr (.inl ⟨_, rfl⟩)
  · exact .inr (.inr ⟨_, _, _, rfl⟩)
  · exact nonnegative.elim

theorem finite_cases {x : Float32} (finite : x.isFinite = true) :
    (∃ s, unpacked x = .zero s) ∨ ∃ s m e positive, unpacked x = .finite s m e positive := by
  rw [isFinite_eq] at finite
  cases value : unpacked x with
  | notANumber => simp [value, UnpackedFloat.isFinite] at finite
  | infinity s => simp [value, UnpackedFloat.isFinite] at finite
  | zero s => exact .inl ⟨s, rfl⟩
  | finite s m e positive => exact .inr ⟨s, m, e, positive, rfl⟩

section Stored

variable {s : Sign} {place : Int} {x : UnpackedFloat}

theorem stored_nonnegative (stored : Stored Format.binary32 .positive place x) :
    Nonnegative x := by
  cases stored <;> trivial

theorem stored_reaches (stored : Stored Format.binary32 .positive place x)
    (room : -149 < place) : Reaches place x := by
  cases stored with
  | zero tiny =>
    rw [minExponent_single] at tiny
    omega
  | finite positive low => exact low
  | infinite => trivial

end Stored

/-- A square reaches twice as far from the point as its root, but for one place. -/
theorem square_reaches {x : Float32} (finite : x.isFinite = true) :
    Nonnegative (unpacked (x * x)) ∧ ∀ p ∈ place? (unpacked x), -149 < 2 * p - 1 →
      Reaches (2 * p - 1) (unpacked (x * x)) := by
  rw [unpacked_mul]
  rcases finite_cases finite with ⟨s, value⟩ | ⟨s, m, e, positive, value⟩
  · rw [value, UnpackedFloat.mul, repacked_zero]
    exact ⟨trivial, nofun⟩
  · obtain ⟨canonical, -⟩ := canonical_unpacked value
    obtain ⟨place, low, -, rounded⟩ := rounded_mul s s positive positive canonical canonical
    have same : s * s = .positive := by cases s <;> rfl
    rw [same] at rounded
    have stored := repacked_rounded rounded
    rw [value]
    refine ⟨stored_nonnegative stored, ?_⟩
    rintro _ ⟨⟩ room
    exact (stored_reaches stored (by omega)).mono (by omega)

theorem add_reaches {x y : Float32} (first : Nonnegative (unpacked x))
    (second : Nonnegative (unpacked y)) :
    Nonnegative (unpacked (x + y)) ∧ ∀ place, -149 < place →
      Reaches place (unpacked x) ∨ Reaches place (unpacked y) →
        Reaches place (unpacked (x + y)) := by
  have infinite : ∀ z, z = .infinity .positive → Nonnegative (repacked z) ∧
      ∀ place, -149 < place → Reaches place (unpacked x) ∨ Reaches place (unpacked y) →
        Reaches place (repacked z) := by
    rintro _ rfl
    rw [repacked_infinity]
    exact ⟨trivial, fun _ _ _ => trivial⟩
  have keep₁ := repacked_unpacked x
  have keep₂ := repacked_unpacked y
  rw [unpacked_add]
  -- Only a sum of two finite values is rounded: zero adds nothing, and infinity stays.
  rcases nonnegative_cases first with left | ⟨s, left⟩ | ⟨m, e, positive, left⟩
  · rcases nonnegative_cases second with right | ⟨s', right⟩ | ⟨m', e', positive', right⟩ <;>
      exact infinite _ (by rw [left, right]; rfl)
  · rcases nonnegative_cases second with right | ⟨s', right⟩ | ⟨m', e', positive', right⟩
    · exact infinite _ (by rw [left, right]; rfl)
    · obtain ⟨sign, sum⟩ : ∃ sign, UnpackedFloat.add Format.binary32 (.zero s) (.zero s') =
          .zero sign := by
        cases s <;> cases s' <;> exact ⟨_, rfl⟩
      rw [left, right, sum, repacked_zero]
      exact ⟨trivial, fun _ _ reaches => reaches.elim id id⟩
    · have sum : UnpackedFloat.add Format.binary32 (unpacked x) (unpacked y) = unpacked y := by
        rw [left, right]
        rfl
      rw [sum, keep₂, left, right]
      exact ⟨trivial, fun _ _ reaches => reaches.resolve_left id⟩
  · rcases nonnegative_cases second with right | ⟨s', right⟩ | ⟨m', e', positive', right⟩
    · exact infinite _ (by rw [left, right]; rfl)
    · have sum : UnpackedFloat.add Format.binary32 (unpacked x) (unpacked y) = unpacked x := by
        rw [left, right]
        rfl
      rw [sum, keep₁, left, right]
      exact ⟨trivial, fun _ _ reaches => reaches.resolve_right id⟩
    · obtain ⟨place, low₁, low₂, rounded⟩ := rounded_add (f := Format.binary32) e e' positive
        positive'
      have stored := repacked_rounded rounded
      rw [left, right]
      refine ⟨stored_nonnegative stored, ?_⟩
      rintro p room (below | below)
      · have below : p ≤ totalExponent m e := below
        exact (stored_reaches stored (by omega)).mono (by omega)
      · have below : p ≤ totalExponent m' e' := below
        exact (stored_reaches stored (by omega)).mono (by omega)

theorem foldl_reaches {xs : List Float32} (terms : ∀ x ∈ xs, Nonnegative (unpacked x))
    {start : Float32} (first : Nonnegative (unpacked start)) :
    Nonnegative (unpacked (xs.foldl (· + ·) start)) ∧ ∀ place, -149 < place →
      (Reaches place (unpacked start) ∨ ∃ x ∈ xs, Reaches place (unpacked x)) →
        Reaches place (unpacked (xs.foldl (· + ·) start)) := by
  induction xs generalizing start with
  | nil => exact ⟨first, fun _ _ reaches => reaches.resolve_right (by simp)⟩
  | cons x xs ih =>
    obtain ⟨sum, reached⟩ := add_reaches first (terms x List.mem_cons_self)
    obtain ⟨total, later⟩ := ih (fun y member => terms y (List.mem_cons_of_mem x member)) sum
    refine ⟨total, ?_⟩
    rintro place room (above | ⟨y, member, above⟩)
    · exact later place room (.inl (reached place room (.inl above)))
    · rcases List.mem_cons.mp member with rfl | member
      · exact later place room (.inl (reached place room (.inr above)))
      · exact later place room (.inr ⟨y, member, above⟩)

theorem sqrt_reaches {x : Float32} (nonnegative : Nonnegative (unpacked x))
    (positive : 0 < x.sqrt) :
    Reaches (-74) (unpacked x.sqrt) ∧ ∀ p, -149 < 2 * p - 1 → Reaches (2 * p - 1) (unpacked x) →
      Reaches p (unpacked x.sqrt) := by
  rw [lt_iff, unpacked_zero] at positive
  rw [unpacked_sqrt] at positive ⊢
  rcases nonnegative_cases nonnegative with value | ⟨s, value⟩ | ⟨m, e, some_bit, value⟩
  · rw [value, UnpackedFloat.sqrt, repacked_infinity]
    exact ⟨trivial, fun _ _ _ => trivial⟩
  · rw [value, UnpackedFloat.sqrt, repacked_zero] at positive
    cases positive
  · obtain ⟨-, least⟩ := canonical_unpacked value
    obtain ⟨place, low, rounded⟩ := rounded_sqrt (f := Format.binary32) e some_bit
    have stored := stored_reaches (repacked_rounded rounded) (by omega)
    rw [value]
    refine ⟨stored.mono (by omega), ?_⟩
    intro p room far
    have far : 2 * p - 1 ≤ totalExponent m e := far
    exact stored.mono (by omega)

/-- A quotient by what reaches as far is not infinite. -/
theorem div_finite {x n : Float32} (finite : x.isFinite = true) {least : Int}
    (positive : Reaches least (unpacked n))
    (far : ∀ p ∈ place? (unpacked x), Reaches p (unpacked n)) : (x / n).isFinite = true := by
  rw [isFinite_eq, unpacked_div]
  rcases reaches_cases positive with infinite | ⟨m, e, some_bit, divisor, -⟩ <;>
    rcases finite_cases finite with ⟨s, value⟩ | ⟨s, m', e', some_bit', value⟩
  · rw [value, infinite, UnpackedFloat.div, repacked_zero]
    rfl
  · rw [value, infinite, UnpackedFloat.div, repacked_zero]
    rfl
  · rw [value, divisor, UnpackedFloat.div, repacked_zero]
    rfl
  · have near := far (totalExponent m' e') (by rw [value]; rfl)
    rw [divisor] at near
    have near : totalExponent m' e' ≤ totalExponent m e := near
    obtain ⟨place, small, rounded⟩ := rounded_div (f := Format.binary32) s .positive e' e some_bit'
      some_bit
    rw [minExponent_single] at small
    rw [value, divisor]
    apply (repacked_rounded rounded).isFinite
    rw [greatestExponent_single, mantissaBits_single, minExponent_single]
    omega

/-! Values that are infinite or not a number -/

theorem not_finite_cases {x : UnpackedFloat} (bad : x.isFinite = false) :
    x = .notANumber ∨ ∃ s, x = .infinity s := by
  cases x with
  | notANumber => exact .inl rfl
  | infinity s => exact .inr ⟨s, rfl⟩
  | zero => cases bad
  | finite => cases bad

theorem repacked_not_finite {x : UnpackedFloat} (bad : x.isFinite = false) :
    (repacked x).isFinite = false := by
  rcases not_finite_cases bad with rfl | ⟨s, rfl⟩
  · rw [repacked_notANumber]
    rfl
  · rw [repacked_infinity]
    rfl

theorem square_not_finite {x : Float32} (bad : x.isFinite = false) :
    (x * x).isFinite = false := by
  rw [isFinite_eq] at bad ⊢
  rw [unpacked_mul]
  apply repacked_not_finite
  rcases not_finite_cases bad with value | ⟨s, value⟩ <;> rw [value] <;> rfl

theorem add_not_finite {x y : Float32} (bad : x.isFinite = false ∨ y.isFinite = false) :
    (x + y).isFinite = false := by
  simp only [isFinite_eq] at bad ⊢
  rw [unpacked_add]
  apply repacked_not_finite
  rcases bad with bad | bad
  · rcases not_finite_cases bad with value | ⟨s, value⟩ <;> rw [value]
    · rfl
    · cases unpacked y with
      | infinity s' => cases s <;> cases s' <;> rfl
      | _ => rfl
  · rcases not_finite_cases bad with value | ⟨s, value⟩ <;> rw [value]
    · cases unpacked x <;> rfl
    · cases unpacked x with
      | infinity s' => cases s <;> cases s' <;> rfl
      | _ => rfl

theorem sqrt_not_finite {x : Float32} (bad : x.isFinite = false) : x.sqrt.isFinite = false := by
  rw [isFinite_eq] at bad ⊢
  rw [unpacked_sqrt]
  apply repacked_not_finite
  rcases not_finite_cases bad with value | ⟨s, value⟩
  · rw [value]
    rfl
  · rw [value]
    cases s <;> rfl

theorem div_not_finite {x y : Float32} (first : x.isFinite = false) (second : y.isFinite = false) :
    (x / y).isFinite = false := by
  rw [isFinite_eq] at first second ⊢
  rw [unpacked_div]
  apply repacked_not_finite
  rcases not_finite_cases first with left | ⟨s, left⟩ <;>
    rcases not_finite_cases second with right | ⟨s', right⟩ <;> rw [left, right] <;> rfl

theorem foldl_not_finite {xs : List Float32} {start : Float32}
    (bad : start.isFinite = false ∨ ∃ x ∈ xs, x.isFinite = false) :
    (xs.foldl (· + ·) start).isFinite = false := by
  induction xs generalizing start with
  | nil => exact bad.resolve_right (by simp)
  | cons x xs ih =>
    apply ih
    rcases bad with bad | ⟨y, member, bad⟩
    · exact .inl (add_not_finite (.inl bad))
    · rcases List.mem_cons.mp member with rfl | member
      · exact .inl (add_not_finite (.inr bad))
      · exact .inr ⟨y, member, bad⟩

end CodeAtlas.Rounding
