import CodeAtlas.Proofs.Json.Decimals

/-!
The texts of values in single precision. A layout gives a number with a fraction or an exponent,
which is read with the digits and the power of ten it was written for; only a whole number is
written with a fraction of its own, and is read as ten times as many tenths.
-/
namespace CodeAtlas.Decimal

open Json (isDigit WholePart ReadsAs isDigit_of_mem_digitChars digitChars_head digitChars_ne_nil
  readsAs_fraction readsAs_fraction_exponent readsAs_exponent largestWord largestExponent)

theorem digits_zeros (n : Nat) : ∀ c ∈ zeros n, isDigit c = true := by
  intro c member
  rw [List.eq_of_mem_replicate member]
  rfl

theorem digits_append {front back : Line} (first : ∀ c ∈ front, isDigit c = true)
    (second : ∀ c ∈ back, isDigit c = true) : ∀ c ∈ front ++ back, isDigit c = true := by
  intro c member
  rcases List.mem_append.mp member with member | member
  · exact first c member
  · exact second c member

theorem wholePart_zero : WholePart ['0'] := by
  refine ⟨?_, .inl rfl⟩
  intro c member
  rw [List.mem_singleton.mp member]
  rfl

theorem ofDigitChars_digitChars (n : Nat) : Nat.ofDigitChars 10 (digitChars n) 0 = n :=
  Nat.ofDigitChars_ten_toDigits

theorem lt_length_digitChars (n : Nat) : n < 10 ^ (digitChars n).length := by
  obtain ⟨d, more, written⟩ := digitChars_ne_nil n
  have some_digit : 0 < (digitChars n).length := by
    rw [written]
    exact Nat.succ_pos _
  exact (Nat.length_toDigits_le_iff (by decide) some_digit).mp (Nat.le_refl _)

section Positional

variable {n : Nat} (positive : 0 < n) {place : Int}

include positive

/-- A number of which all or some digits stand behind the point. -/
theorem readsAs_positional (word : n ≤ largestWord) (inner : place < (digitChars n).length) :
    ReadsAs (positional (digitChars n) place) n (place - (digitChars n).length) := by
  obtain ⟨d, more, written, solid⟩ := digitChars_head positive
  have digits : ∀ c ∈ digitChars n, isDigit c = true := fun c member =>
    isDigit_of_mem_digitChars member
  have value := ofDigitChars_digitChars n
  unfold positional
  split
  · have same : Nat.ofDigitChars 10 (['0'] ++ (zeros (-place).toNat ++ digitChars n)) 0 = n := by
      have zero : Nat.ofDigitChars 10 ['0'] 0 = 0 := rfl
      rw [Nat.ofDigitChars_append, Nat.ofDigitChars_append, zero, zeros,
        Nat.ofDigitChars_replicate_zero, Nat.mul_zero, value]
    have reads := readsAs_fraction wholePart_zero
      (digits_append (digits_zeros (-place).toNat) digits) (by simp [written])
      (by rw [same]; exact word)
    have places : -((zeros (-place).toNat ++ digitChars n).length : Int) =
        place - (digitChars n).length := by
      rw [List.length_append, zeros, List.length_replicate]
      omega
    rw [same, places] at reads
    exact reads
  · rename_i inside
    rw [List.append_assoc]
    have same : Nat.ofDigitChars 10
        ((digitChars n).take place.toNat ++ (digitChars n).drop place.toNat) 0 = n := by
      rw [List.take_append_drop, value]
    have front : WholePart ((digitChars n).take place.toNat) := by
      refine ⟨fun c member => digits c (List.mem_of_mem_take member), ?_⟩
      obtain ⟨k, same⟩ : ∃ k, place.toNat = k + 1 := ⟨place.toNat - 1, by omega⟩
      exact .inr ⟨d, more.take k, by rw [same, written, List.take_succ_cons], solid⟩
    have behind : (digitChars n).drop place.toNat ≠ [] := by
      rw [ne_eq, List.drop_eq_nil_iff]
      omega
    have reads := readsAs_fraction front
      (fun c member => digits c (List.mem_of_mem_drop member)) behind (by rw [same]; exact word)
    have places : -(((digitChars n).drop place.toNat).length : Int) =
        place - (digitChars n).length := by
      rw [List.length_drop]
      omega
    rw [same, places] at reads
    exact reads

theorem readsAs_whole {e : Nat} (far : place = (digitChars n).length + e)
    (word : n * 10 ^ (e + 1) ≤ largestWord) :
    ReadsAs (positional (digitChars n) place) (n * 10 ^ (e + 1)) (-1) := by
  obtain ⟨d, more, written, solid⟩ := digitChars_head positive
  have digits : ∀ c ∈ digitChars n, isDigit c = true := fun c member =>
    isDigit_of_mem_digitChars member
  have some_digit : 0 < (digitChars n).length := by
    rw [written]
    exact Nat.succ_pos _
  have size : (place - (digitChars n).length).toNat = e := by omega
  unfold positional
  rw [if_neg (by omega), if_neg (by omega), size]
  have same : Nat.ofDigitChars 10 (digitChars n ++ zeros e ++ zeros 1) 0 = n * 10 ^ (e + 1) := by
    rw [Nat.ofDigitChars_append, Nat.ofDigitChars_append, ofDigitChars_digitChars, zeros, zeros,
      Nat.ofDigitChars_replicate_zero, Nat.ofDigitChars_replicate_zero, Nat.pow_succ]
    ring
  have front : WholePart (digitChars n ++ zeros e) := by
    refine ⟨digits_append digits (digits_zeros e), .inr ⟨d, more ++ zeros e, ?_, solid⟩⟩
    rw [written, List.cons_append]
  have reads := readsAs_fraction front (digits_zeros 1) (by decide) (by rw [same]; exact word)
  rw [same] at reads
  exact reads

end Positional

theorem wholePart_digit {n : Nat} {d : Char} (solid : d ≠ '0') {more : Line}
    (written : digitChars n = d :: more) : WholePart [d] := by
  have digits : ∀ c ∈ d :: more, isDigit c = true := fun c member =>
    isDigit_of_mem_digitChars (written ▸ member)
  refine ⟨?_, .inr ⟨d, [], rfl, solid⟩⟩
  intro c member
  exact digits c (List.mem_singleton.mp member ▸ List.mem_cons_self)

section Scientific

variable {n : Nat} (word : n ≤ largestWord) {k : Int} (small : k.natAbs ≤ largestExponent)
  {d : Char} (solid : d ≠ '0')

include word small solid

theorem readsAs_digit (written : digitChars n = [d]) : ReadsAs (d :: exponentText k) n k := by
  have value := ofDigitChars_digitChars n
  rw [written] at value
  have reads := readsAs_exponent (wholePart_digit solid written) (k := k)
    (by rw [value]; exact word) small
  rwa [value] at reads

theorem readsAs_digits {e : Char} {more : Line} (written : digitChars n = d :: e :: more) :
    ReadsAs (d :: '.' :: (e :: more) ++ exponentText k) n (k - (e :: more).length) := by
  have value := ofDigitChars_digitChars n
  rw [written, ← List.singleton_append] at value
  have digits : ∀ c ∈ e :: more, isDigit c = true := fun c member =>
    isDigit_of_mem_digitChars (written ▸ List.mem_cons_of_mem d member)
  have reads := readsAs_fraction_exponent (wholePart_digit solid written) digits (by simp)
    (by rw [value]; exact word) small
  rw [value, Int.add_comm, ← Int.sub_eq_add_neg] at reads
  exact reads

end Scientific

section Writing

variable {x : Scaled} (positive : 0 < x.digits)

include positive

theorem readsAs_point (word : x.digits ≤ largestWord) {high : Int} (most : high ≤ 18)
    (place : (digitChars x.digits).length + x.exponent ≤ high) :
    let text := positional (digitChars x.digits) ((digitChars x.digits).length + x.exponent)
    ReadsAs text x.digits x.exponent ∨
      ∃ e : Nat, x.exponent = e ∧ x.digits * 10 ^ (e + 1) < 10 ^ (high.toNat + 1) ∧
        ReadsAs text (x.digits * 10 ^ (e + 1)) (-1) := by
  intro text
  rcases Int.lt_or_le x.exponent 0 with below | above
  · have reads := @readsAs_positional _ positive ((digitChars x.digits).length + x.exponent) word
      (by omega)
    rw [add_sub_cancel_left] at reads
    exact .inl reads
  · obtain ⟨e, same⟩ := Int.eq_ofNat_of_zero_le above
    have room : x.digits * 10 ^ (e + 1) < 10 ^ (high.toNat + 1) :=
      calc x.digits * 10 ^ (e + 1) < 10 ^ (digitChars x.digits).length * 10 ^ (e + 1) :=
            Nat.mul_lt_mul_of_pos_right (lt_length_digitChars _) (Nat.pow_pos (by decide))
        _ = 10 ^ ((digitChars x.digits).length + (e + 1)) := (Nat.pow_add 10 _ _).symm
        _ ≤ 10 ^ (high.toNat + 1) := Nat.pow_le_pow_right (by decide) (by omega)
    have fits : x.digits * 10 ^ (e + 1) ≤ largestWord :=
      calc x.digits * 10 ^ (e + 1) ≤ 10 ^ (high.toNat + 1) := Nat.le_of_lt room
        _ ≤ 10 ^ 19 := Nat.pow_le_pow_right (by decide) (by omega)
        _ ≤ largestWord := by decide
    exact .inr ⟨e, same, room, readsAs_whole positive (by rw [same]) fits⟩

/-- What is written for a positive number is read as its digits at its power of ten, or as that many
tenths. -/
theorem readsAs_write (layout : Layout) (most : layout.high ≤ 18) (short : x.digits < 2 ^ 28)
    (small : x.exponent.natAbs < 50) :
    ReadsAs (layout.write x) x.digits x.exponent ∨
      ∃ e : Nat, x.exponent = e ∧ x.digits * 10 ^ (e + 1) < 10 ^ (layout.high.toNat + 1) ∧
        ReadsAs (layout.write x) (x.digits * 10 ^ (e + 1)) (-1) := by
  have word : x.digits ≤ largestWord := by
    unfold largestWord
    omega
  unfold Layout.write
  rw [if_neg (Nat.ne_of_gt positive)]
  dsimp only
  split
  · rename_i inside
    simp only [Bool.and_eq_true, decide_eq_true_eq] at inside
    exact readsAs_point positive word most inside.2
  · left
    obtain ⟨d, more, written, solid⟩ := digitChars_head positive
    have length : (digitChars x.digits).length ≤ 9 :=
      (Nat.length_toDigits_le_iff (by decide) (by decide)).mpr (by omega)
    have fits : 50 + 9 ≤ largestExponent := by decide
    rw [written] at length ⊢
    cases more with
    | nil =>
      have place : (([d] : Line).length : Int) + x.exponent - 1 = x.exponent := by
        rw [List.length_singleton]
        omega
      rw [place]
      exact readsAs_digit word (by omega) solid written
    | cons e more =>
      have reads := readsAs_digits word (k := ((d :: e :: more).length : Int) + x.exponent - 1)
        (by omega) solid written
      have place : ((d :: e :: more).length : Int) + x.exponent - 1 - (e :: more).length =
          x.exponent := by
        rw [List.length_cons (a := d)]
        omega
      rw [place] at reads
      exact reads

end Writing

/-! Values in single precision -/

theorem magnitude_single (bits : Nat) :
    single.magnitude bits =
      if bits / 2 ^ 23 % 2 ^ 8 = 255 then
        if bits % 2 ^ 23 = 0 then .infinite else .notANumber
      else if bits / 2 ^ 23 % 2 ^ 8 = 0 then .finite (bits % 2 ^ 23) (-149)
      else .finite (bits % 2 ^ 23 + 2 ^ 23) (-149 + (bits / 2 ^ 23 % 2 ^ 8 - 1 : Nat)) := by
  rw [← Nat.shiftRight_eq_div_pow]
  rfl

open Float.Model UnpackedFloat

theorem isFinite_single (x : Float32) :
    x.isFinite = true ↔ x.toBits.toNat / 2 ^ 23 % 2 ^ 8 ≠ 255 := by
  have field : (@unpackExponent Format.binary32 x.toBits.toBitVec).toNat =
      x.toBits.toNat / 2 ^ 23 % 2 ^ 8 := by
    rw [Rounding.toNat_unpackExponent]
    rfl
  have full : (-1#(Format.binary32.exponentBits)).toNat = 255 := by decide
  rw [← field, ← full, ne_eq, BitVec.toNat_inj]
  exact Rounding.isFinite_unpack (f := Float.Model.Format.binary32) x.toBits.toBitVec

theorem singleText_finite {x : Float32} {m : Nat} {q : Int}
    (magnitude : single.magnitude x.toBits.toNat = .finite m q) :
    singleText? x = some (if single.isNegative x.toBits.toNat
      then '-' :: singleLayout.write (shortest single m q)
      else singleLayout.write (shortest single m q)) := by
  unfold singleText? text?
  rw [magnitude]

theorem singleText_cases (x : Float32) :
    (x.isFinite = true ∧ ∃ m q, single.magnitude x.toBits.toNat = .finite m q) ∨
    x.isFinite = false ∧ singleText? x = none := by
  have magnitude := magnitude_single x.toBits.toNat
  by_cases finite : x.isFinite = true
  · rw [if_neg ((isFinite_single x).mp finite)] at magnitude
    refine .inl ⟨finite, ?_⟩
    rw [magnitude]
    split <;> exact ⟨_, _, rfl⟩
  · have field : x.toBits.toNat / 2 ^ 23 % 2 ^ 8 = 255 :=
      Decidable.not_not.mp fun room => finite ((isFinite_single x).mpr room)
    rw [if_pos field] at magnitude
    refine .inr ⟨by simpa using finite, ?_⟩
    unfold singleText? text?
    rw [magnitude]
    split
    · rename_i value
      split at value <;> cases value
    · rfl

end CodeAtlas.Decimal
