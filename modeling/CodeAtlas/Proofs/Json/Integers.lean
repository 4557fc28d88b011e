import CodeAtlas.Proofs.Json.Decimals
import CodeAtlas.Proofs.Json.Legible

/-!
Whole numbers of any length. The leading digits that fit a word are read in full and the others count
for their place alone; what is read is an integer or a double, unless that double would be infinite.
One such element makes its array unreadable.
-/
namespace CodeAtlas.Json

open List (Forall₂)

/-! Numbers in range -/

/-- Its leading digits, taken times ten for each of the others, give a double that is finite. -/
def InRange (n : Nat) : Prop :=
  (scaled? 8 (Decimal.doubleOfNat (leadingDigits n).1) (leadingDigits n).2).isSome = true

instance (n : Nat) : Decidable (InRange n) := by unfold InRange; infer_instance

theorem inRange_word {n : Nat} (word : n ≤ largestWord) : InRange n := by
  obtain ⟨y, scaled⟩ := scaled_of_small (e := 0) word (by decide)
  rw [InRange, leadingDigits_word word]
  exact Option.isSome_of_eq_some scaled

/-- The digits that do not fit are those behind the longest part of the number that does. -/
theorem leadingDigits_eq {n k : Nat} (fits : n / 10 ^ (k + 1) ≤ largestWord)
    (long : largestWord < n / 10 ^ k) : leadingDigits n = (n / 10 ^ (k + 1), k + 1) := by
  have beyond : ¬ n ≤ largestWord := Nat.not_le.mpr (long.trans_le (Nat.div_le_self n _))
  induction k generalizing n with
  | zero =>
    rw [Nat.zero_add, Nat.pow_one] at fits ⊢
    rw [leadingDigits, if_neg beyond, leadingDigits_word fits]
  | succ k ih =>
    have shorter (j : Nat) : n / 10 / 10 ^ j = n / 10 ^ (j + 1) := by
      rw [Nat.div_div_eq_div_mul, Nat.pow_succ', Nat.mul_comm]
    have longer : largestWord < n / 10 / 10 ^ k := by rwa [shorter]
    have later := ih (by rwa [shorter]) longer
      (Nat.not_le.mpr (longer.trans_le (Nat.div_le_self _ _)))
    rw [leadingDigits, if_neg beyond, later, shorter]

theorem leadingDigits_power (k : Nat) : leadingDigits (10 ^ (20 + k)) = (10 ^ 19, k + 1) := by
  have ratio (j rest : Nat) (parts : j + rest = 20 + k) : 10 ^ (20 + k) / 10 ^ j = 10 ^ rest := by
    rw [← parts, Nat.pow_add, Nat.mul_div_cancel_left _ (Nat.pow_pos (by decide))]
  have fits := ratio (k + 1) 19 (by omega)
  rw [leadingDigits_eq (n := 10 ^ (20 + k)) (k := k), fits]
  · rw [fits]
    decide
  · rw [ratio k 20 (by omega)]
    decide

/-- Beyond the powers of ten that doubles hold, only zero is in range. -/
theorem scaled_large (steps : Nat) {x : Float} (some_digit : (x == 0) = false) {e : Int}
    (large : 308 < e) : scaled? (steps + 1) x e = none := by
  rw [scaled?, if_neg (by omega), if_neg (by simp [some_digit]), if_pos (by omega)]

theorem power_out_of_range {k : Nat} (large : 308 ≤ k) : ¬ InRange (10 ^ (20 + k)) := by
  have some_digit : (Decimal.doubleOfNat (10 ^ 19) == 0) = false := by decide +kernel
  rw [InRange, leadingDigits_power, scaled_large 7 some_digit (by omega)]
  exact Bool.false_ne_true

theorem plain_inRange (negative : Bool) {n : Nat} (range : InRange n) :
    ∃ m, ∀ cursor,
      readAfterWhole.plain negative (significandOf n) cursor = .ok (m, cursor) := by
  unfold readAfterWhole.plain
  by_cases word : n ≤ largestWord
  · rw [significandOf_word word]
    simp only [Bool.false_eq_true, if_false]
    split
    · split <;> exact ⟨_, fun _ => rfl⟩
    · exact ⟨_, fun _ => rfl⟩
  · obtain ⟨y, scaled⟩ := Option.isSome_iff_exists.mp range
    simp only [significandOf, decide_true, if_true, Nat.not_le.mp word, finishDouble, scaled]
    exact ⟨_, fun _ => rfl⟩

theorem plain_out_of_range (negative : Bool) {n : Nat} (out : ¬ InRange n) (cursor : Cursor) :
    readAfterWhole.plain negative (significandOf n) cursor = cursor.fault .numberOutOfRange := by
  have long : largestWord < n := by
    by_contra word
    exact out (inRange_word (Nat.not_lt.mp word))
  have scaled := Option.not_isSome_iff_eq_none.mp out
  simp only [readAfterWhole.plain, significandOf, long, decide_true, if_true, finishDouble, scaled]

variable {s : Spacing} {levels : Nat}

theorem rereads_inRange {n : Int} (range : InRange n.natAbs) :
    ∃ m, Rereads s levels (.number (.int n)) (.number m) := by
  obtain ⟨m, ok⟩ := plain_inRange (decide (n < 0)) range
  refine ⟨m, fun depth => ⟨writeInt_solid n, ?_⟩⟩
  intro limit depth line column rest _ ends _
  obtain ⟨column', found⟩ := readValue_writeInt n limit depth line column ends
  refine ⟨line, column', ?_⟩
  rw [write_int, found, ok]
  rfl

/-! Unreadable elements -/

/-- A text that is refused for this cause wherever it stands. -/
structure Refused (text : Line) (cause : Cause) : Prop where
  solid : ∃ c more, text = c :: more ∧ ¬ IsBlank c ∧ c ≠ ']'
  refuses : ∀ (limit depth line column : Nat) (rest : Line), EndsNumber rest →
    ∃ line' column', readValue limit depth ⟨text ++ rest, line, column⟩ =
      .error ⟨cause, line', column'⟩

theorem refused_out_of_range {n : Int} (out : ¬ InRange n.natAbs) (depth : Nat) :
    Refused (write s depth (.number (.int n))) .numberOutOfRange := by
  refine ⟨writeInt_solid n, ?_⟩
  intro limit depth line column rest ends
  obtain ⟨column', found⟩ := readValue_writeInt n limit depth line column ends
  refine ⟨line, column', ?_⟩
  rw [write_int, found, plain_out_of_range _ out]
  rfl

section Arrays

variable (depth outer : Nat) {limit below : Nat} {cause : Cause}

/-- The elements before an unreadable one are read one round each. -/
theorem readElements_refused (blank : s.Blank) {xs ws : List Json} {x : Json}
    (legible : Forall₂ (fun x w => Legible levels (write s depth x) w) xs ws)
    (refused : Refused (write s depth x) cause) (back : List Json) (deep : levels ≤ below)
    (fuel : Nat) (enough : xs.length < fuel) (taken : List Json) (started : taken ≠ [])
    (rest : Line) (line column : Nat)
    (covered : (writeMore s depth (xs ++ x :: back) ++ (s.gap outer ++ ']' :: rest)).length ≤ limit) :
    ∃ line' column', readElements (readValue limit below) fuel taken
      ⟨writeMore s depth (xs ++ x :: back) ++ (s.gap outer ++ ']' :: rest), line, column⟩ =
      .error ⟨cause, line', column'⟩ := by
  induction legible generalizing fuel taken line column with
  | nil =>
    obtain ⟨fuel, rfl⟩ := Nat.exists_eq_add_one_of_ne_zero (Nat.ne_of_gt enough)
    have ends := endsNumber_more depth outer blank back rest (.inl rfl)
    rw [List.nil_append, writeMore_cons, List.append_assoc, List.append_assoc]
    obtain ⟨line₁, column₁, step⟩ := readElements_next depth blank (readValue limit below) fuel
      refused.solid (writeMore s depth back ++ (s.gap outer ++ ']' :: rest)) started line column
    obtain ⟨line₂, column₂, fault⟩ := refused.refuses limit below line₁ column₁ _ ends
    refine ⟨line₂, column₂, ?_⟩
    rw [step, fault, Except.bind]
  | @cons y w xs ws head tail ih =>
    obtain ⟨fuel, rfl⟩ := Nat.exists_eq_add_one_of_ne_zero (Nat.ne_of_gt (Nat.zero_lt_of_lt enough))
    have ends := endsNumber_more depth outer blank (xs ++ x :: back) rest (.inl rfl)
    rw [List.cons_append, writeMore_cons, List.append_assoc, List.append_assoc] at covered ⊢
    simp only [List.length_append, List.length_cons] at covered ih
    obtain ⟨line₁, column₁, step⟩ := readElements_next depth blank (readValue limit below) fuel
      head.solid (writeMore s depth (xs ++ x :: back) ++ (s.gap outer ++ ']' :: rest)) started line
      column
    obtain ⟨line₂, column₂, found⟩ := head.reads limit below line₁ column₁ _ deep ends
      (by simp only [List.length_append, List.length_cons]; omega)
    rw [step, found]
    exact ih fuel (by simpa using enough) (w :: taken) (by simp) line₂ column₂ (by omega)

theorem readValue_refused_array (blank : s.Blank) {xs ws : List Json} {x : Json}
    (elements : Forall₂ (Rereads s levels) xs ws)
    (refused : ∀ depth, Refused (write s depth x) cause) (back : List Json) (deep : levels ≤ below)
    (line column : Nat) (rest : Line)
    (covered : (write s depth (.array (xs ++ x :: back)) ++ rest).length ≤ limit) :
    ∃ line' column', readValue limit (below + 1)
      ⟨write s depth (.array (xs ++ x :: back)) ++ rest, line, column⟩ =
      .error ⟨cause, line', column'⟩ := by
  cases elements with
  | nil =>
    have ends := endsNumber_more (depth + 1) depth blank back rest (.inl rfl)
    rw [List.nil_append, write_array_cons]
    simp only [List.cons_append, List.append_assoc, List.nil_append]
    rw [readValue_array]
    obtain ⟨line₁, column₁, step⟩ := readElements_first (depth + 1) blank (readValue limit below)
      limit (refused (depth + 1)).solid
      (writeMore s (depth + 1) back ++ (s.gap depth ++ ']' :: rest)) line (column + 1)
    obtain ⟨line₂, column₂, fault⟩ :=
      (refused (depth + 1)).refuses limit below line₁ column₁ _ ends
    refine ⟨line₂, column₂, ?_⟩
    rw [step, fault, Except.bind]
  | @cons y w xs ws head tail =>
    have legible := tail.imp fun y w rereads => rereads (depth + 1)
    have ends := endsNumber_more (depth + 1) depth blank (xs ++ x :: back) rest (.inl rfl)
    have longer := length_le_writeMore (s := s) (depth + 1) (xs ++ x :: back)
    rw [List.cons_append, write_array_cons] at covered ⊢
    simp only [List.cons_append, List.append_assoc, List.nil_append, List.length_append,
      List.length_cons] at covered longer ⊢
    rw [readValue_array]
    obtain ⟨line₁, column₁, step⟩ := readElements_first (depth + 1) blank (readValue limit below)
      limit (head (depth + 1)).solid
      (writeMore s (depth + 1) (xs ++ x :: back) ++ (s.gap depth ++ ']' :: rest)) line (column + 1)
    obtain ⟨line₂, column₂, found⟩ := (head (depth + 1)).reads limit below line₁ column₁ _ deep ends
      (by simp only [List.length_append, List.length_cons]; omega)
    rw [step, found]
    exact readElements_refused (depth + 1) depth blank legible (refused (depth + 1)) back deep limit
      (by omega) [w] (by simp) rest line₂ column₂
      (by simp only [List.length_append, List.length_cons]; omega)

end Arrays

theorem read_refused_array (blank : s.Blank) {xs ws : List Json} {x : Json} {cause : Cause}
    (elements : Forall₂ (Rereads s levels) xs ws)
    (refused : ∀ depth, Refused (write s depth x) cause) (back : List Json)
    (deep : levels < deepest) :
    ∃ line column, read (write s 0 (.array (xs ++ x :: back))) = .error ⟨cause, line, column⟩ := by
  obtain ⟨below, levels_below⟩ : ∃ below, deepest = below + 1 := ⟨126, rfl⟩
  have room : levels ≤ below := by omega
  obtain ⟨line, column, fault⟩ := readValue_refused_array 0 blank elements refused back room 1 0 []
    (Nat.le_of_eq (congrArg List.length (List.append_nil _)))
  refine ⟨line, column, ?_⟩
  rw [List.append_nil, ← levels_below] at fault
  rw [read, Cursor.start, fault]

end CodeAtlas.Json
