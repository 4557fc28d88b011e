import CodeAtlas.Json.Reader

/-!
Reading back what was written, for one string or one number. Places in the text matter to faults
only, so a reading that succeeds is stated up to the place it ends at.
-/
namespace CodeAtlas.Json

/-- The value is read and exactly this much of the text is left. -/
def Read.Gives {α : Type} (result : Read α) (value : α) (rest : Line) : Prop :=
  ∃ line column, result = .ok (value, ⟨rest, line, column⟩)

def IsBlank (c : Char) : Prop := c = '\n' ∨ c = ' ' ∨ c = '\t' ∨ c = '\r'

instance (c : Char) : Decidable (IsBlank c) := by unfold IsBlank; infer_instance

def EndsNumber (rest : Line) : Prop :=
  ∀ c ∈ rest.head?, isDigit c = false ∧ c ≠ '.' ∧ isExponentMark c = false

theorem endsNumber_nil : EndsNumber [] := by
  intro c member
  cases member

theorem endsNumber_cons {c : Char} (rest : Line) (ends : IsBlank c ∨ c = ',' ∨ c = ']' ∨
    c = Char.ofNat 0x7D) : EndsNumber (c :: rest) := by
  intro d member
  cases member
  unfold IsBlank at ends
  rcases ends with (rfl | rfl | rfl | rfl) | rfl | rfl | rfl <;> decide

theorem past_rest (cursor : Cursor) (c : Char) (rest : Line) :
    ∃ line column, cursor.past c rest = ⟨rest, line, column⟩ := by
  unfold Cursor.past
  split <;> exact ⟨_, _, rfl⟩

theorem skipBlanks_of_not_blank {c : Char} (rest : Line) (line column : Nat)
    (solid : ¬ IsBlank c) :
    Cursor.skipBlanks ⟨c :: rest, line, column⟩ = ⟨c :: rest, line, column⟩ := by
  simp only [IsBlank, not_or] at solid
  simp [Cursor.skipBlanks, Cursor.skipBlanksIn, solid]

theorem skipBlanks_blanks {blanks : Line} (blank : ∀ c ∈ blanks, IsBlank c) (rest : Line)
    (solid : ∀ c ∈ rest.head?, ¬ IsBlank c) (line column : Nat) :
    ∃ line' column', Cursor.skipBlanks ⟨blanks ++ rest, line, column⟩ = ⟨rest, line', column'⟩ := by
  induction blanks generalizing line column with
  | nil =>
    cases rest with
    | nil => exact ⟨line, column, rfl⟩
    | cons c others => exact ⟨line, column, skipBlanks_of_not_blank _ _ _ (solid c rfl)⟩
  | cons b blanks ih =>
    have later := ih fun c member => blank c (List.mem_cons_of_mem b member)
    simp only [Cursor.skipBlanks] at later ⊢
    rcases blank b List.mem_cons_self with rfl | rfl | rfl | rfl <;>
      simp [Cursor.skipBlanksIn, later]

theorem readLetters_letters (value : Json) (letters rest : Line) (line column : Nat) :
    (readLetters value letters ⟨letters ++ rest, line, column⟩).Gives value rest := by
  induction letters generalizing line column with
  | nil => exact ⟨line, column, rfl⟩
  | cons c letters ih =>
    obtain ⟨line', column', moved⟩ :=
      past_rest ⟨c :: letters ++ rest, line, column⟩ c (letters ++ rest)
    simp only [List.cons_append] at moved
    simp only [List.cons_append, readLetters, if_true, moved]
    exact ih line' column'

section Strings

theorem hexValue_hexDigit : ∀ n < 16, hexValue? (hexDigit n) = some n := by
  decide

theorem readHex_hexDigits {n : Nat} (small : n < 256) (rest : Line) (line column : Nat) :
    readHex ⟨'0' :: '0' :: hexDigit (n / 16) :: hexDigit (n % 16) :: rest, line, column⟩ =
      .ok (n, ⟨rest, line, column + 4⟩) := by
  have zero : hexValue? '0' = some 0 := by decide
  have high := hexValue_hexDigit (n / 16) (by omega)
  have low := hexValue_hexDigit (n % 16) (by omega)
  simp only [readHex, zero, high, low]
  congr 3
  omega

theorem readChars_escapeChar (c : Char) (fuel : Nat) (taken rest : Line) (line column : Nat) :
    ∃ line' column', readChars (fuel + 1) taken ⟨escapeChar c ++ rest, line, column⟩ =
      readChars fuel (c :: taken) ⟨rest, line', column'⟩ := by
  unfold escapeChar
  split
  · subst c
    exact ⟨_, _, rfl⟩
  split
  · subst c
    exact ⟨_, _, rfl⟩
  split
  · subst c
    exact ⟨_, _, rfl⟩
  split
  · subst c
    exact ⟨_, _, rfl⟩
  split
  · subst c
    exact ⟨_, _, rfl⟩
  split
  · subst c
    exact ⟨_, _, rfl⟩
  split
  · subst c
    exact ⟨_, _, rfl⟩
  split
  · rename_i control
    have hex := readHex_hexDigits (n := c.toNat) (by omega) rest line (column + 2)
    have low : ¬ (0xDC00 ≤ c.toNat ∧ c.toNat ≤ 0xDFFF) := by omega
    have plain : c.toNat < 0xD800 ∨ 0xDBFF < c.toNat := by omega
    have same : Char.ofNat c.toNat = c := Char.ofNat_toNat c
    refine ⟨line, column + 2 + 4, ?_⟩
    have quote : ('\\' : Char) ≠ '"' := by decide
    have size : column + Char.utf8Size '\\' + Char.utf8Size 'u' = column + 2 := rfl
    simp [readChars, readEscape, Cursor.past, quote, size, hex, low, plain, same]
  · rename_i quote slash _ _ _ _ _ printable
    have reached := past_rest ⟨c :: rest, line, column⟩ c rest
    obtain ⟨line', column', moved⟩ := reached
    refine ⟨line', column', ?_⟩
    simp [readChars, quote, slash, printable, moved]

theorem readChars_escaped (cs : Line) (fuel : Nat) (taken rest : Line) (line column : Nat)
    (enough : cs.length < fuel) :
    (readChars fuel taken ⟨cs.flatMap escapeChar ++ '"' :: rest, line, column⟩).Gives
      (String.ofList (taken.reverse ++ cs)) rest := by
  induction cs generalizing fuel taken line column with
  | nil =>
    obtain ⟨fuel, rfl⟩ := Nat.exists_eq_add_one_of_ne_zero (Nat.ne_of_gt enough)
    refine ⟨line, column + 1, ?_⟩
    simp [readChars, Cursor.past]
    rfl
  | cons c cs ih =>
    obtain ⟨fuel, rfl⟩ := Nat.exists_eq_add_one_of_ne_zero (Nat.ne_of_gt (Nat.zero_lt_of_lt enough))
    rw [List.flatMap_cons, List.append_assoc]
    obtain ⟨line', column', step⟩ := readChars_escapeChar c fuel taken
      (cs.flatMap escapeChar ++ '"' :: rest) line column
    have later := ih fuel (c :: taken) line' column' (by simpa using enough)
    rw [step]
    simpa using later

theorem length_le_escaped (cs : Line) : cs.length ≤ (cs.flatMap escapeChar).length := by
  induction cs with
  | nil => exact Nat.le_refl 0
  | cons c cs ih =>
    have longer : 1 ≤ (escapeChar c).length := by
      unfold escapeChar
      repeat' split
      all_goals simp
    simp only [List.flatMap_cons, List.length_append, List.length_cons]
    omega

/-- A written string is read back after its opening quote, as long as the limit covers it. -/
theorem readStringBody_written (s : String) (limit : Nat) (rest : Line) (line column : Nat)
    (covered : (writeString s).length ≤ limit) :
    (readStringBody limit ⟨s.toList.flatMap escapeChar ++ '"' :: rest, line, column⟩).Gives s
      rest := by
  have longer := length_le_escaped s.toList
  simp only [writeString, List.length_append, List.length_cons] at covered
  have found := readChars_escaped s.toList (limit + 1) [] rest line column (by omega)
  simpa [readStringBody] using found

end Strings

section Numbers

theorem isDigit_of_mem_digitChars {n : Nat} {c : Char} (member : c ∈ Decimal.digitChars n) :
    isDigit c = true :=
  Nat.isDigit_of_mem_toDigits (by decide) (by decide) member

theorem digitChars_head {n : Nat} (positive : 0 < n) :
    ∃ c more, Decimal.digitChars n = c :: more ∧ c ≠ '0' := by
  induction n using Nat.strongRecOn with
  | ind n ih =>
    unfold Decimal.digitChars
    by_cases small : n < 10
    · refine ⟨n.digitChar, [], Nat.toDigits_of_lt_base small, ?_⟩
      rw [ne_eq, Nat.digitChar_eq_zero]
      omega
    · obtain ⟨c, more, written, solid⟩ := ih (n / 10) (by omega) (by omega)
      rw [Nat.toDigits_of_base_le (by decide) (by omega)]
      unfold Decimal.digitChars at written
      exact ⟨c, _, by rw [written, List.cons_append], solid⟩

theorem digitChars_ne_nil (n : Nat) : ∃ d more, Decimal.digitChars n = d :: more := by
  by_cases zero : n = 0
  · exact ⟨'0', [], by rw [zero]; rfl⟩
  · obtain ⟨d, more, written, -⟩ := digitChars_head (Nat.pos_of_ne_zero zero)
    exact ⟨d, more, written⟩

/-! Whole numbers of any length: the leading digits that fit a word, and the place of the others -/

def wholeStep (s : Significand) (d : Char) : Significand :=
  if s.full ∨ largestWord < s.value * 10 + digitValue d then
    { s with exponent := s.exponent + 1, full := true }
  else { s with value := s.value * 10 + digitValue d }

theorem readWhole_append {ds : Line} (digits : ∀ c ∈ ds, isDigit c = true) (s : Significand)
    (rest : Line) (column : Nat) :
    readWhole s (ds ++ rest) column = readWhole (ds.foldl wholeStep s) rest (column + ds.length) := by
  induction ds generalizing s column with
  | nil => rfl
  | cons d ds ih =>
    have more := fun c member => digits c (List.mem_cons_of_mem d member)
    have moved : column + 1 + ds.length = column + (d :: ds).length := by
      rw [List.length_cons, Nat.add_assoc, Nat.add_comm 1]
    rw [List.cons_append, readWhole, if_pos (digits d List.mem_cons_self), List.foldl_cons, wholeStep]
    dsimp only
    split <;> rw [ih more, moved]

theorem readWhole_end (s : Significand) {rest : Line} (column : Nat)
    (ends : ∀ c ∈ rest.head?, isDigit c = false) : readWhole s rest column = (s, rest, column) := by
  cases rest with
  | nil => rfl
  | cons c others => simp [readWhole, ends c rfl]

def leadingDigits (n : Nat) : Nat × Nat :=
  if n ≤ largestWord then (n, 0)
  else ((leadingDigits (n / 10)).1, (leadingDigits (n / 10)).2 + 1)
termination_by n
decreasing_by all_goals omega

def significandOf (n : Nat) : Significand :=
  ⟨(leadingDigits n).1, (leadingDigits n).2, decide (largestWord < n)⟩

theorem leadingDigits_word {n : Nat} (word : n ≤ largestWord) : leadingDigits n = (n, 0) := by
  rw [leadingDigits, if_pos word]

theorem significandOf_word {n : Nat} (word : n ≤ largestWord) : significandOf n = ⟨n, 0, false⟩ := by
  simp [significandOf, leadingDigits_word word, word]

theorem significandOf_long {n : Nat} (long : largestWord < n) :
    significandOf n = ⟨(significandOf (n / 10)).value, (significandOf (n / 10)).exponent + 1, true⟩ := by
  simp [significandOf, leadingDigits.eq_def n, Nat.not_le.mpr long, long]

theorem digitValue_digitChar : ∀ d < 10, digitValue d.digitChar = d := by
  decide

theorem wholeStep_significandOf (n : Nat) :
    wholeStep (significandOf (n / 10)) (n % 10).digitChar = significandOf n := by
  have digit := digitValue_digitChar (n % 10) (Nat.mod_lt n (by decide))
  have parts : n / 10 * 10 + n % 10 = n := Nat.div_add_mod' n 10
  unfold wholeStep
  rw [digit]
  by_cases word : n ≤ largestWord
  · have shorter : n / 10 ≤ largestWord := Nat.le_trans (Nat.div_le_self n 10) word
    rw [significandOf_word word, significandOf_word shorter]
    simp [parts, word]
  · have long := Nat.not_le.mp word
    rw [significandOf_long long, if_pos]
    by_cases shorter : n / 10 ≤ largestWord
    · right
      rw [significandOf_word shorter, parts]
      exact long
    · left
      simpa [significandOf] using shorter

theorem foldl_wholeStep (n : Nat) :
    (Decimal.digitChars n).foldl wholeStep ⟨0, 0, false⟩ = significandOf n := by
  induction n using Nat.strongRecOn with
  | ind n ih =>
    have step := wholeStep_significandOf n
    unfold Decimal.digitChars at ih ⊢
    by_cases small : n < 10
    · have zero : significandOf 0 = ⟨0, 0, false⟩ := significandOf_word (Nat.zero_le _)
      rw [Nat.div_eq_of_lt small, Nat.mod_eq_of_lt small, zero] at step
      rw [Nat.toDigits_of_lt_base small, List.foldl_cons, List.foldl_nil, step]
    · rw [Nat.toDigits_of_base_le (by decide) (by omega), List.foldl_append, ih (n / 10) (by omega),
        List.foldl_cons, List.foldl_nil, step]

theorem readAfterWhole_plain (negative : Bool) (s : Significand) (rest : Line) (line column : Nat)
    (ends : EndsNumber rest) :
    readAfterWhole negative s ⟨rest, line, column⟩ =
      readAfterWhole.plain negative s ⟨rest, line, column⟩ := by
  cases rest with
  | nil => rfl
  | cons c others =>
    obtain ⟨_, point, exponent⟩ := ends c rfl
    unfold readAfterWhole
    split
    · rename_i cursor more same
      cases same
      exact absurd rfl point
    · rename_i same
      cases same
      simp [exponent]
    · rename_i same
      cases same

/-- The digits of a number, with whatever sign before them. -/
theorem readNumber_digitChars (negative : Bool) (n : Nat) {rest : Line} (line column : Nat)
    (ends : EndsNumber rest) :
    ∃ column', readNumber negative ⟨Decimal.digitChars n ++ rest, line, column⟩ =
      readAfterWhole.plain negative (significandOf n) ⟨rest, line, column'⟩ := by
  by_cases zero : n = 0
  · subst zero
    have stops : ∀ c ∈ rest.head?, isDigit c = false := fun c member => (ends c member).1
    refine ⟨column + Char.utf8Size '0', ?_⟩
    rw [significandOf_word (Nat.zero_le _), ← readAfterWhole_plain _ _ _ _ _ ends]
    cases rest with
    | nil => rfl
    | cons c others => simp [Decimal.digitChars, readNumber, stops c rfl, Cursor.past]
  · obtain ⟨c, more, written, solid⟩ := digitChars_head (Nat.pos_of_ne_zero zero)
    have digits : ∀ d ∈ Decimal.digitChars n, isDigit d = true :=
      fun d member => isDigit_of_mem_digitChars member
    have whole := readWhole_append digits ⟨0, 0, false⟩ rest column
    rw [foldl_wholeStep, readWhole_end _ _ fun d member => (ends d member).1] at whole
    have digit : isDigit c = true := digits c (by rw [written]; simp)
    refine ⟨column + (Decimal.digitChars n).length, ?_⟩
    rw [← readAfterWhole_plain _ _ _ _ _ ends]
    rw [written, List.cons_append] at whole ⊢
    simp [readNumber, digit, whole]

def FitsWord (n : Int) : Prop := -largestNegative ≤ n ∧ n ≤ largestWord

theorem plain_int {n : Int} (fits : FitsWord n) (cursor : Cursor) :
    readAfterWhole.plain (decide (n < 0)) (significandOf n.natAbs) cursor =
      .ok (.int n, cursor) := by
  have word : n.natAbs ≤ largestWord := by
    unfold FitsWord largestNegative largestWord at *
    omega
  obtain ⟨least, most⟩ := fits
  rw [significandOf_word word]
  unfold readAfterWhole.plain
  by_cases negative : n < 0
  · have small : ¬ (n.natAbs = 0 ∨ largestNegative < n.natAbs) := by omega
    have same : -(n.natAbs : Int) = n := by omega
    simp only [negative, decide_true, if_true, if_neg small, same]
    rfl
  · have same : (n.natAbs : Int) = n := by omega
    simp [negative, same]

end Numbers

end CodeAtlas.Json
