import CodeAtlas.Proofs.Decimal.Product
import CodeAtlas.Proofs.Json.Scalars

/-!
Numbers with a fraction or an exponent. As long as the digits fit the significand, what is read of
them is the number they stand for, and the point and the exponent count for its power of ten.
-/
namespace CodeAtlas.Json

theorem log2_tenTo (e : Nat) : (Decimal.tenTo e).log2 ≤ 4 * e := by
  have wide : 10 ^ e < 2 ^ (4 * e + 1) :=
    calc 10 ^ e ≤ (2 ^ 4) ^ e := Nat.pow_le_pow_left (by decide) e
      _ = 2 ^ (4 * e) := (Nat.pow_mul 2 4 e).symm
      _ < 2 ^ (4 * e + 1) := Nat.pow_lt_pow_right (by decide) (Nat.lt_succ_self _)
  have log := (Nat.log2_lt (Nat.ne_of_gt (Nat.pow_pos (by decide)))).mpr wide
  exact Nat.le_of_lt_succ log

theorem scaled_of_negative (steps : Nat) (x : Float) (e : Int) (below : e < 0) :
    ∃ y, scaled? steps x e = some y := by
  induction steps generalizing x e with
  | zero => exact ⟨x, rfl⟩
  | succ steps ih =>
    unfold scaled?
    split
    · rw [if_neg (by omega)]
      exact ⟨_, rfl⟩
    · split
      · exact ⟨x, rfl⟩
      · rw [if_neg (by omega)]
        exact ih _ _ (by omega)

theorem scaled_of_small {n : Nat} {e : Int} (word : n ≤ largestWord) (small : e ≤ 200) :
    ∃ y, scaled? 8 (Decimal.doubleOfNat n) e = some y := by
  by_cases below : e < 0
  · exact scaled_of_negative _ _ _ below
  · have log : n.log2 ≤ 63 := by
      by_cases zero : n = 0
      · simp [zero]
      · have := (Nat.log2_lt (n := n) (k := 64) zero).mpr (by unfold largestWord at word; omega)
        omega
    have power := log2_tenTo e.toNat
    have finite : (Decimal.doubleOfNat n * powerOfTen e.toNat).isInf = false :=
      Decimal.not_infinite (Decimal.mul_finite (Decimal.below_doubleOfNat (by omega))
        (Decimal.below_doubleOfNat (by omega)) (by omega))
    refine ⟨Decimal.doubleOfNat n * powerOfTen e.toNat, ?_⟩
    unfold scaled?
    rw [if_pos (by omega), if_pos (by omega)]
    dsimp only
    rw [finite]
    rfl

/-! Digits -/

/-- What comes first in a run of digits is no larger than all of it. -/
theorem ofDigitChars_grows (ds : Line) (n : Nat) : n ≤ Nat.ofDigitChars 10 ds n := by
  rw [Nat.ofDigitChars_eq_ofDigitChars_zero]
  exact Nat.le_trans (Nat.le_mul_of_pos_left n (Nat.pow_pos (by decide))) (Nat.le_add_right _ _)

theorem ofDigitChars_step (d : Char) (ds : Line) (n : Nat) :
    Nat.ofDigitChars 10 (d :: ds) n = Nat.ofDigitChars 10 ds (n * 10 + digitValue d) := by
  rw [Nat.ofDigitChars_cons, Nat.mul_comm]
  rfl

section Digits

variable {ds : Line} (digits : ∀ c ∈ ds, isDigit c = true) {n : Nat} (rest : Line)
  (ends : ∀ c ∈ rest.head?, isDigit c = false)

include digits ends

theorem readWhole_digits (e : Int) (fits : Nat.ofDigitChars 10 ds n ≤ largestWord) (column : Nat) :
    readWhole ⟨n, e, false⟩ (ds ++ rest) column =
      (⟨Nat.ofDigitChars 10 ds n, e, false⟩, rest, column + ds.length) := by
  have all : ds.foldl wholeStep ⟨n, e, false⟩ = ⟨Nat.ofDigitChars 10 ds n, e, false⟩ := by
    clear digits
    induction ds generalizing n with
    | nil => rfl
    | cons d ds ih =>
      rw [ofDigitChars_step] at fits ⊢
      have word := ofDigitChars_grows ds (n * 10 + digitValue d)
      rw [List.foldl_cons, wholeStep, if_neg (by simp only [Bool.false_eq_true, false_or]; omega)]
      exact ih fits
  rw [readWhole_append digits, all, readWhole_end _ _ ends]

theorem readFraction_digits (e : Int) (fits : Nat.ofDigitChars 10 ds n ≤ largestWord)
    (column : Nat) :
    readFraction ⟨n, e, false⟩ (ds ++ rest) column =
      (⟨Nat.ofDigitChars 10 ds n, e - ds.length, false⟩, rest, column + ds.length) := by
  induction ds generalizing n e column with
  | nil =>
    cases rest with
    | nil => simp [readFraction]
    | cons c others => simp [readFraction, ends c rfl]
  | cons d ds ih =>
    have more := fun c member => digits c (List.mem_cons_of_mem d member)
    rw [ofDigitChars_step] at fits ⊢
    have word := ofDigitChars_grows ds (n * 10 + digitValue d)
    rw [List.cons_append, readFraction, if_pos (digits d List.mem_cons_self)]
    dsimp only
    rw [if_neg (by simp only [Bool.false_eq_true, false_or]; omega), ih more (e - 1) fits]
    have place : e - 1 - (ds.length : Int) = e - ((d :: ds).length : Int) := by
      rw [List.length_cons]
      omega
    rw [place, List.length_cons, Nat.add_assoc, Nat.add_comm 1]

theorem readExponentDigits_digits (fits : Nat.ofDigitChars 10 ds n ≤ largestExponent)
    (stop column : Nat) :
    ∃ stop', readExponentDigits (some n) stop (ds ++ rest) column =
      (some (Nat.ofDigitChars 10 ds n), stop', rest, column + ds.length) := by
  induction ds generalizing n stop column with
  | nil =>
    refine ⟨stop, ?_⟩
    cases rest with
    | nil => rfl
    | cons c others => simp [readExponentDigits, ends c rfl]
  | cons d ds ih =>
    have more := fun c member => digits c (List.mem_cons_of_mem d member)
    rw [ofDigitChars_step] at fits ⊢
    have small := ofDigitChars_grows ds (n * 10 + digitValue d)
    obtain ⟨stop', found⟩ := ih more fits (column + 1) (column + 1)
    refine ⟨stop', ?_⟩
    rw [List.cons_append, readExponentDigits, if_pos (digits d List.mem_cons_self)]
    dsimp only
    rw [if_neg (by omega), found, List.length_cons, Nat.add_assoc, Nat.add_comm 1]

end Digits

/-! Numbers with a fraction, an exponent or both -/

theorem past_plain {c : Char} (other : c ≠ '\n') (size : c.utf8Size = 1) (text rest : Line)
    (line column : Nat) : (Cursor.mk text line column).past c rest = ⟨rest, line, column + 1⟩ := by
  rw [Cursor.past, if_neg other, size]

variable (negative : Bool)

theorem exponentText_cons (k : Int) : ∃ more, Decimal.exponentText k = 'e' :: more := by
  unfold Decimal.exponentText
  split <;> exact ⟨_, rfl⟩

theorem readExponent_text {s : Significand} {k : Int} (fits : k.natAbs ≤ largestExponent)
    {more rest : Line} (written : Decimal.exponentText k = 'e' :: more) (ends : EndsNumber rest)
    (line column : Nat) :
    ∃ after, readExponent negative s ⟨more ++ rest, line, column⟩ =
      finishDouble negative s.value (s.exponent + k) ⟨rest, line, after⟩ := by
  obtain ⟨d, ds, digits_eq⟩ := digitChars_ne_nil k.natAbs
  have digits : ∀ c ∈ d :: ds, isDigit c = true := fun c member =>
    isDigit_of_mem_digitChars (digits_eq ▸ member)
  have value : Nat.ofDigitChars 10 (d :: ds) 0 = k.natAbs := by
    rw [← digits_eq]
    exact Nat.ofDigitChars_ten_toDigits
  obtain ⟨stop, found⟩ := readExponentDigits_digits digits rest (fun c member => (ends c member).1)
    (value ▸ fits) (column + 1) (column + 1)
  rw [value, List.cons_append] at found
  have first := digits d List.mem_cons_self
  refine ⟨column + 1 + (d :: ds).length, ?_⟩
  unfold Decimal.exponentText at written
  by_cases below : k < 0
  · have size : (-k).toNat = k.natAbs := by omega
    have sum : s.exponent - k.natAbs = s.exponent + k := by omega
    rw [if_pos below, size, digits_eq] at written
    obtain rfl := (List.cons.inj written).2
    rw [← sum]
    unfold readExponent
    simp [past_plain (c := '-') (by decide) (by decide), first, found]
  · have size : k.toNat = k.natAbs := by omega
    have sum : s.exponent + k.natAbs = s.exponent + k := by omega
    rw [if_neg below, size, digits_eq] at written
    obtain rfl := (List.cons.inj written).2
    rw [← sum]
    unfold readExponent
    simp [past_plain (c := '+') (by decide) (by decide), first, found]

structure WholePart (ds : Line) : Prop where
  digits : ∀ c ∈ ds, isDigit c = true
  leading : ds = ['0'] ∨ ∃ d more, ds = d :: more ∧ d ≠ '0'

structure ReadsAs (text : Line) (n : Nat) (e : Int) : Prop where
  starts : ∃ d more, text = d :: more ∧ isDigit d = true
  reads : ∀ (negative : Bool) (rest : Line) (line column : Nat), EndsNumber rest →
    ∃ after, readNumber negative ⟨text ++ rest, line, column⟩ =
      finishDouble negative n e ⟨rest, line, after⟩

theorem WholePart.starts {ds : Line} (whole : WholePart ds) :
    ∃ d more, ds = d :: more ∧ isDigit d = true := by
  rcases whole.leading with rfl | ⟨d, more, rfl, -⟩
  · exact ⟨'0', [], rfl, rfl⟩
  · exact ⟨d, more, rfl, whole.digits d List.mem_cons_self⟩

theorem readNumber_whole {whole : Line} (front : WholePart whole)
    (fits : Nat.ofDigitChars 10 whole 0 ≤ largestWord) (rest : Line)
    (ends : ∀ c ∈ rest.head?, isDigit c = false) (line column : Nat) :
    ∃ after, readNumber negative ⟨whole ++ rest, line, column⟩ =
      readAfterWhole negative ⟨Nat.ofDigitChars 10 whole 0, 0, false⟩ ⟨rest, line, after⟩ := by
  rcases front.leading with rfl | ⟨d, more, rfl, solid⟩
  · refine ⟨column + 1, ?_⟩
    cases rest with
    | nil => rfl
    | cons c others => simp [readNumber, ends c rfl, Cursor.past, Char.utf8Size, ofDigitChars_step,
        digitValue]
  · have found := readWhole_digits front.digits rest ends 0 fits column
    have first := front.digits d List.mem_cons_self
    refine ⟨column + (d :: more).length, ?_⟩
    rw [List.cons_append] at found ⊢
    simp [readNumber, first, found]

theorem readAfterWhole_point {n : Nat} {ds : Line} (digits : ∀ c ∈ ds, isDigit c = true)
    (some_digit : ds ≠ []) (fits : Nat.ofDigitChars 10 ds n ≤ largestWord) (rest : Line)
    (line column : Nat) :
    ∃ after,
      (EndsNumber rest → readAfterWhole negative ⟨n, 0, false⟩ ⟨'.' :: (ds ++ rest), line, column⟩ =
        finishDouble negative (Nat.ofDigitChars 10 ds n) (-ds.length) ⟨rest, line, after⟩) ∧
      ∀ more, rest = 'e' :: more →
        readAfterWhole negative ⟨n, 0, false⟩ ⟨'.' :: (ds ++ rest), line, column⟩ =
          readExponent negative ⟨Nat.ofDigitChars 10 ds n, -ds.length, false⟩
            ⟨more, line, after + 1⟩ := by
  have moved : 0 < ds.length := List.length_pos_iff.mpr some_digit
  have further : ¬ column + 1 + ds.length = column + 1 := by omega
  have place : (0 : Int) - ds.length = -ds.length := Int.zero_sub _
  refine ⟨column + 1 + ds.length, ?_, ?_⟩
  · intro ends
    have found := readFraction_digits digits rest (fun c member => (ends c member).1) 0 fits
      (column + 1)
    rw [place] at found
    unfold readAfterWhole
    simp only [past_plain (c := '.') (by decide) (by decide), found, if_neg further]
    cases rest with
    | nil => rfl
    | cons c more => simp [(ends c rfl).2.2]
  · rintro more rfl
    have found := readFraction_digits digits ('e' :: more) (by intro c head; cases head; decide) 0
      fits (column + 1)
    rw [place] at found
    unfold readAfterWhole
    simp only [past_plain (c := '.') (by decide) (by decide), found, if_neg further]
    rfl

section Texts

variable {whole ds : Line} {k : Int} (front : WholePart whole)
  (digits : ∀ c ∈ ds, isDigit c = true) (some_digit : ds ≠ [])
  (fits : Nat.ofDigitChars 10 (whole ++ ds) 0 ≤ largestWord)

include front digits some_digit fits

theorem readsAs_fraction :
    ReadsAs (whole ++ '.' :: ds) (Nat.ofDigitChars 10 (whole ++ ds) 0) (-ds.length) := by
  rw [Nat.ofDigitChars_append] at *
  have word := Nat.le_trans (ofDigitChars_grows ds _) fits
  obtain ⟨d, more, written, digit⟩ := front.starts
  refine ⟨⟨d, more ++ '.' :: ds, by rw [written, List.cons_append], digit⟩, ?_⟩
  intro negative rest line column ends
  obtain ⟨reached, found⟩ := readNumber_whole negative front word ('.' :: (ds ++ rest))
    (by intro c head; cases head; decide) line column
  obtain ⟨after, ended, -⟩ := readAfterWhole_point negative digits some_digit fits rest line reached
  refine ⟨after, ?_⟩
  rw [List.append_assoc, List.cons_append, found, ended ends]

theorem readsAs_fraction_exponent (small : k.natAbs ≤ largestExponent) :
    ReadsAs (whole ++ '.' :: ds ++ Decimal.exponentText k)
      (Nat.ofDigitChars 10 (whole ++ ds) 0) (-ds.length + k) := by
  rw [Nat.ofDigitChars_append] at *
  have word := Nat.le_trans (ofDigitChars_grows ds _) fits
  obtain ⟨d, more, first, digit⟩ := front.starts
  obtain ⟨es, written⟩ := exponentText_cons k
  refine ⟨⟨d, more ++ '.' :: ds ++ Decimal.exponentText k, by simp [first], digit⟩, ?_⟩
  intro negative rest line column ends
  obtain ⟨reached, found⟩ := readNumber_whole negative front word
    ('.' :: (ds ++ 'e' :: (es ++ rest))) (by intro c head; cases head; decide) line column
  obtain ⟨after, -, marked⟩ := readAfterWhole_point negative digits some_digit fits
    ('e' :: (es ++ rest)) line reached
  obtain ⟨last, read⟩ := readExponent_text negative
    (s := ⟨Nat.ofDigitChars 10 ds (Nat.ofDigitChars 10 whole 0), -ds.length, false⟩)
    small written ends line (after + 1)
  refine ⟨last, ?_⟩
  rw [written]
  simp only [List.append_assoc, List.cons_append]
  rw [found, marked _ rfl, read]

end Texts

theorem readsAs_exponent {whole : Line} {k : Int} (front : WholePart whole)
    (fits : Nat.ofDigitChars 10 whole 0 ≤ largestWord) (small : k.natAbs ≤ largestExponent) :
    ReadsAs (whole ++ Decimal.exponentText k) (Nat.ofDigitChars 10 whole 0) k := by
  obtain ⟨d, more, first, digit⟩ := front.starts
  obtain ⟨es, written⟩ := exponentText_cons k
  refine ⟨⟨d, more ++ Decimal.exponentText k, by simp [first], digit⟩, ?_⟩
  intro negative rest line column ends
  obtain ⟨reached, found⟩ := readNumber_whole negative front fits ('e' :: (es ++ rest))
    (by intro c head; cases head; decide) line column
  obtain ⟨last, read⟩ := readExponent_text negative
    (s := ⟨Nat.ofDigitChars 10 whole 0, 0, false⟩) small written ends line (reached + 1)
  rw [Int.zero_add] at read
  refine ⟨last, ?_⟩
  rw [List.append_assoc, written, List.cons_append, found]
  exact read

end CodeAtlas.Json
