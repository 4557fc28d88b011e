import CodeAtlas.Proofs.Json.Scalars
import Mathlib.Data.List.Forall2

/-!
Reading back what was written, for whole values. A written value is read the same wherever it
stands, so arrays and objects are read back once their parts are.
-/
namespace CodeAtlas.Json

open List (Forall₂)

/-- A text that is read as this value wherever it stands, given this many levels. -/
structure Legible (levels : Nat) (text : Line) (value : Json) : Prop where
  solid : ∃ c more, text = c :: more ∧ ¬ IsBlank c ∧ c ≠ ']'
  reads : ∀ (limit depth line column : Nat) (rest : Line), levels ≤ depth → EndsNumber rest →
    (text ++ rest).length ≤ limit →
    (readValue limit depth ⟨text ++ rest, line, column⟩).Gives value rest

def Rereads (s : Spacing) (levels : Nat) (value reread : Json) : Prop :=
  ∀ depth, Legible levels (write s depth value) reread

structure Spacing.Blank (s : Spacing) : Prop where
  gap : ∀ depth, ∀ c ∈ s.gap depth, IsBlank c
  afterColon : ∀ c ∈ s.afterColon, IsBlank c

theorem compactSpacing_blank : compactSpacing.Blank := by
  constructor
  · intro depth c member
    cases member
  · intro c member
    cases member

theorem prettySpacing_blank : prettySpacing.Blank := by
  constructor
  · intro depth c member
    rcases List.mem_cons.mp member with rfl | space
    · exact .inl rfl
    · exact .inr (.inl (List.eq_of_mem_replicate space))
  · intro c member
    exact .inr (.inl (List.mem_singleton.mp member))

section Written

variable (s : Spacing) (depth : Nat)

theorem write_string (text : String) : write s depth (.string text) = writeString text := rfl

theorem write_int (n : Int) : write s depth (.number (.int n)) = writeInt n := rfl

theorem write_array_nil : write s depth (.array []) = ['[', ']'] := rfl

theorem write_array_cons (x : Json) (xs : List Json) :
    write s depth (.array (x :: xs)) =
      '[' :: (s.gap (depth + 1) ++ (write s (depth + 1) x ++
        (writeMore s (depth + 1) xs ++ (s.gap depth ++ [']'])))) := by
  have layout : write s depth (.array (x :: xs)) =
      '[' :: s.gap (depth + 1) ++ write s (depth + 1) x ++ writeMore s (depth + 1) xs ++
        s.gap depth ++ [']'] := rfl
  rw [layout]
  simp only [List.cons_append, List.append_assoc]

theorem writeMore_nil : writeMore s depth [] = [] := rfl

theorem writeMore_cons (x : Json) (xs : List Json) :
    writeMore s depth (x :: xs) =
      ',' :: s.gap depth ++ write s depth x ++ writeMore s depth xs := rfl

def fieldText (key : String) (x : Json) : Line :=
  key.toList.flatMap escapeChar ++ '"' :: ':' :: s.afterColon ++ write s depth x

theorem write_object_nil : write s depth (.object []) = [Char.ofNat 0x7B, Char.ofNat 0x7D] := rfl

theorem write_object_cons (key : String) (x : Json) (fields : List (String × Json)) :
    write s depth (.object ((key, x) :: fields)) =
      Char.ofNat 0x7B :: (s.gap (depth + 1) ++ '"' :: (fieldText s (depth + 1) key x ++
        (writeMoreFields s (depth + 1) fields ++ (s.gap depth ++ [Char.ofNat 0x7D])))) := by
  have layout : write s depth (.object ((key, x) :: fields)) =
      Char.ofNat 0x7B :: s.gap (depth + 1) ++ writeString key ++ ':' :: s.afterColon ++
        write s (depth + 1) x ++ writeMoreFields s (depth + 1) fields ++ s.gap depth ++
        [Char.ofNat 0x7D] := rfl
  rw [layout, fieldText, writeString]
  simp only [List.append_assoc, List.cons_append, List.nil_append]

theorem writeMoreFields_nil : writeMoreFields s depth [] = [] := rfl

theorem writeMoreFields_cons (key : String) (x : Json) (fields : List (String × Json)) :
    writeMoreFields s depth ((key, x) :: fields) =
      ',' :: s.gap depth ++ '"' :: fieldText s depth key x ++ writeMoreFields s depth fields := by
  have layout : writeMoreFields s depth ((key, x) :: fields) =
      ',' :: s.gap depth ++ writeString key ++ ':' :: s.afterColon ++ write s depth x ++
        writeMoreFields s depth fields := rfl
  rw [layout, fieldText, writeString]
  simp only [List.append_assoc, List.cons_append, List.nil_append]

end Written

section Scalars

variable (limit depth line column : Nat) (rest : Line)

theorem readValue_null :
    readValue limit depth ⟨'n' :: rest, line, column⟩ =
      readLetters .null ['u', 'l', 'l'] ⟨rest, line, column + 1⟩ := by
  cases depth <;> delta readValue <;> rfl

theorem readValue_true :
    readValue limit depth ⟨'t' :: rest, line, column⟩ =
      readLetters (.bool true) ['r', 'u', 'e'] ⟨rest, line, column + 1⟩ := by
  cases depth <;> delta readValue <;> rfl

theorem readValue_false :
    readValue limit depth ⟨'f' :: rest, line, column⟩ =
      readLetters (.bool false) ['a', 'l', 's', 'e'] ⟨rest, line, column + 1⟩ := by
  cases depth <;> delta readValue <;> rfl

theorem readValue_string :
    readValue limit depth ⟨'"' :: rest, line, column⟩ =
      (readStringBody limit ⟨rest, line, column + 1⟩).map fun (s, after) => (.string s, after) := by
  cases depth <;> delta readValue <;> rfl

theorem readValue_negative :
    readValue limit depth ⟨'-' :: rest, line, column⟩ =
      (readNumber true ⟨rest, line, column + 1⟩).map fun (n, after) => (.number n, after) := by
  cases depth <;> delta readValue <;> rfl

theorem readValue_digit {d : Char} (digit : isDigit d = true) :
    readValue limit depth ⟨d :: rest, line, column⟩ =
      (readNumber false ⟨d :: rest, line, column⟩).map fun (n, after) => (.number n, after) := by
  have other : ∀ c, isDigit c = false → d ≠ c := by
    rintro c plain rfl
    rw [digit] at plain
    cases plain
  have solid : ¬ IsBlank d := by
    rintro (same | same | same | same)
    all_goals exact other _ (by decide) same
  rw [readValue.eq_def]
  simp only [skipBlanks_of_not_blank rest line column solid, digit, if_true,
    if_neg (other 'n' (by decide)), if_neg (other 't' (by decide)), if_neg (other 'f' (by decide)),
    if_neg (other '"' (by decide)), if_neg (other '-' (by decide))]

theorem readValue_array :
    readValue limit (depth + 1) ⟨'[' :: rest, line, column⟩ =
      readElements (readValue limit depth) (limit + 1) [] ⟨rest, line, column + 1⟩ := by
  delta readValue
  rfl

theorem readValue_object :
    readValue limit (depth + 1) ⟨Char.ofNat 0x7B :: rest, line, column⟩ =
      readFields limit (readValue limit depth) (limit + 1) [] ⟨rest, line, column + 1⟩ := by
  delta readValue
  rfl

end Scalars

variable {s : Spacing} {levels : Nat}

/-- A literal, of which `c` tells what is read. -/
theorem legible_literal {c : Char} {letters : Line} {value : Json}
    (solid : ¬ IsBlank c ∧ c ≠ ']') (tells : ∀ limit depth line column rest,
      readValue limit depth ⟨c :: rest, line, column⟩ =
        readLetters value letters ⟨rest, line, column + 1⟩) :
    Legible levels (c :: letters) value := by
  refine ⟨⟨c, letters, rfl, solid⟩, ?_⟩
  intro limit depth line column rest _ _ _
  rw [List.cons_append, tells]
  exact readLetters_letters value letters rest line (column + 1)

theorem rereads_null : Rereads s levels .null .null :=
  fun _ => legible_literal (by decide) readValue_null

theorem rereads_bool (b : Bool) : Rereads s levels (.bool b) (.bool b) := by
  intro depth
  cases b with
  | true => exact legible_literal (by decide) readValue_true
  | false => exact legible_literal (by decide) readValue_false

theorem rereads_string (text : String) : Rereads s levels (.string text) (.string text) := by
  intro depth
  rw [write_string]
  refine ⟨⟨'"', _, rfl, by decide, by decide⟩, ?_⟩
  intro limit depth line column rest _ _ covered
  rw [List.length_append] at covered
  obtain ⟨line', column', found⟩ :=
    readStringBody_written text limit rest line (column + 1) (by omega)
  refine ⟨line', column', ?_⟩
  simp only [writeString, List.cons_append, List.append_assoc, List.nil_append]
  rw [readValue_string, found]
  rfl

theorem writeInt_solid (n : Int) :
    ∃ c more, writeInt n = c :: more ∧ ¬ IsBlank c ∧ c ≠ ']' := by
  unfold writeInt
  split
  · exact ⟨'-', _, rfl, by decide, by decide⟩
  · obtain ⟨c, more, written⟩ := digitChars_ne_nil n.toNat
    have digit : isDigit c = true := isDigit_of_mem_digitChars (n := n.toNat) (by simp [written])
    refine ⟨c, more, written, ?_, ?_⟩
    · rintro (rfl | rfl | rfl | rfl) <;> cases digit
    · rintro rfl
      cases digit

theorem readValue_writeInt (n : Int) (limit depth line column : Nat) {rest : Line}
    (ends : EndsNumber rest) :
    ∃ column', readValue limit depth ⟨writeInt n ++ rest, line, column⟩ =
      (readAfterWhole.plain (decide (n < 0)) (significandOf n.natAbs) ⟨rest, line, column'⟩).map
        fun (m, after) => (.number m, after) := by
  unfold writeInt
  by_cases negative : n < 0
  · have magnitude : (-n).toNat = n.natAbs := by omega
    obtain ⟨column', found⟩ := readNumber_digitChars true n.natAbs line (column + 1) ends
    refine ⟨column', ?_⟩
    rw [if_pos negative, magnitude, List.cons_append, readValue_negative, found,
      decide_eq_true negative]
  · have magnitude : n.toNat = n.natAbs := by omega
    obtain ⟨column', found⟩ := readNumber_digitChars false n.natAbs line column ends
    obtain ⟨c, more, written⟩ := digitChars_ne_nil n.natAbs
    have digit : isDigit c = true := isDigit_of_mem_digitChars (n := n.natAbs) (by simp [written])
    refine ⟨column', ?_⟩
    rw [if_neg negative, magnitude, decide_eq_false negative]
    rw [written, List.cons_append] at found ⊢
    rw [readValue_digit _ _ _ _ _ digit, found]

theorem rereads_int {n : Int} (fits : FitsWord n) :
    Rereads s levels (.number (.int n)) (.number (.int n)) := by
  refine fun depth => ⟨writeInt_solid n, ?_⟩
  intro limit depth line column rest _ ends _
  obtain ⟨column', found⟩ := readValue_writeInt n limit depth line column ends
  refine ⟨line, column', ?_⟩
  rw [write_int, found, plain_int fits]
  rfl

theorem fitsWord_ofNat {n : Nat} (fits : n ≤ largestWord) : FitsWord n := by
  unfold FitsWord largestNegative
  unfold largestWord at *
  omega

theorem rereads_ofNat {n : Nat} (fits : n ≤ largestWord) : Rereads s levels (ofNat n) (ofNat n) :=
  rereads_int (fitsWord_ofNat fits)

section Arrays

variable (depth outer : Nat) {limit below : Nat}

theorem endsNumber_more (blank : s.Blank) (xs : List Json) {close : Char} (rest : Line)
    (closes : close = ']' ∨ close = Char.ofNat 0x7D) :
    EndsNumber (writeMore s depth xs ++ (s.gap outer ++ close :: rest)) := by
  cases xs with
  | nil =>
    rw [writeMore_nil, List.nil_append]
    cases gap : s.gap outer with
    | nil => exact endsNumber_cons rest (.inr (.inr closes))
    | cons b blanks =>
      have white := blank.gap outer b (by simp [gap])
      exact endsNumber_cons _ (.inl white)
  | cons x xs =>
    rw [writeMore_cons, List.append_assoc, List.append_assoc, List.cons_append]
    exact endsNumber_cons _ (.inr (.inl rfl))

theorem readElements_close (blank : s.Blank) (element : Cursor → Read Json) (fuel : Nat)
    (taken : List Json) (rest : Line) (line column : Nat) :
    (readElements element (fuel + 1) taken ⟨s.gap outer ++ ']' :: rest, line, column⟩).Gives
      (.array taken.reverse) rest := by
  obtain ⟨line', column', skipped⟩ := skipBlanks_blanks (blank.gap outer) (']' :: rest)
    (by intro c head; cases head; decide) line column
  refine ⟨line', column' + 1, ?_⟩
  rw [readElements, skipped]
  rfl

theorem readElements_first (blank : s.Blank) (element : Cursor → Read Json) (fuel : Nat)
    {text : Line} (starts : ∃ c more, text = c :: more ∧ ¬ IsBlank c ∧ c ≠ ']') (tail : Line)
    (line column : Nat) :
    ∃ line' column',
      readElements element (fuel + 1) [] ⟨s.gap depth ++ (text ++ tail), line, column⟩ =
        (element ⟨text ++ tail, line', column'⟩).bind fun (value, after) =>
          readElements element fuel [value] after := by
  obtain ⟨c, more, rfl, solid, element_⟩ := starts
  obtain ⟨line', column', skipped⟩ := skipBlanks_blanks (blank.gap depth)
    (c :: more ++ tail) (by intro d head; cases head; exact solid) line column
  refine ⟨line', column', ?_⟩
  rw [List.cons_append] at skipped
  simp only [readElements, List.cons_append, skipped, if_neg element_, List.isEmpty_nil, if_true]
  generalize element _ = found
  cases found <;> rfl

theorem readElements_next (blank : s.Blank) (element : Cursor → Read Json) (fuel : Nat)
    {text : Line} (starts : ∃ c more, text = c :: more ∧ ¬ IsBlank c ∧ c ≠ ']') (tail : Line)
    {taken : List Json} (started : taken ≠ []) (line column : Nat) :
    ∃ line' column',
      readElements element (fuel + 1) taken ⟨',' :: s.gap depth ++ (text ++ tail), line, column⟩ =
        (element ⟨text ++ tail, line', column'⟩).bind fun (value, after) =>
          readElements element fuel (value :: taken) after := by
  obtain ⟨c, more, rfl, solid, element_⟩ := starts
  obtain ⟨line', column', skipped⟩ := skipBlanks_blanks (blank.gap depth)
    (c :: more ++ tail) (by intro d head; cases head; exact solid) line (column + 1)
  refine ⟨line', column', ?_⟩
  have comma := skipBlanks_of_not_blank (c := ',') (s.gap depth ++ (c :: more ++ tail)) line column
    (by decide)
  have other : (',' : Char) ≠ ']' := by decide
  have moved : (Cursor.mk (',' :: (s.gap depth ++ (c :: more ++ tail))) line column).past ','
      (s.gap depth ++ (c :: more ++ tail)) = ⟨s.gap depth ++ (c :: more ++ tail), line,
        column + 1⟩ := rfl
  have empty : taken.isEmpty = false := by simpa using started
  have ahead : (c :: more ++ tail).head? ≠ some ']' := by simpa using element_
  rw [List.cons_append, readElements, comma]
  simp only [if_neg other, empty, Bool.false_eq_true, if_false, if_true, moved, skipped,
    if_neg ahead]
  generalize element _ = found
  cases found <;> rfl

/-- The elements after the first are read one round each. -/
theorem readElements_more (blank : s.Blank) {xs ws : List Json}
    (legible : Forall₂ (fun x w => Legible levels (write s depth x) w) xs ws)
    (deep : levels ≤ below) (fuel : Nat) (enough : xs.length < fuel) (taken : List Json)
    (started : taken ≠ []) (rest : Line) (line column : Nat)
    (covered : (writeMore s depth xs ++ (s.gap outer ++ ']' :: rest)).length ≤ limit) :
    (readElements (readValue limit below) fuel taken
      ⟨writeMore s depth xs ++ (s.gap outer ++ ']' :: rest), line, column⟩).Gives
      (.array (taken.reverse ++ ws)) rest := by
  induction legible generalizing fuel taken line column with
  | nil =>
    obtain ⟨fuel, rfl⟩ := Nat.exists_eq_add_one_of_ne_zero (Nat.ne_of_gt enough)
    rw [writeMore_nil, List.nil_append, List.append_nil]
    exact readElements_close outer blank _ fuel taken rest line column
  | @cons x w xs ws head tail ih =>
    obtain ⟨fuel, rfl⟩ := Nat.exists_eq_add_one_of_ne_zero (Nat.ne_of_gt (Nat.zero_lt_of_lt enough))
    have ends := endsNumber_more depth outer blank xs rest (.inl rfl)
    rw [writeMore_cons, List.append_assoc, List.append_assoc] at covered ⊢
    simp only [List.length_append, List.length_cons] at covered ih
    obtain ⟨line₁, column₁, step⟩ := readElements_next depth blank (readValue limit below) fuel
      head.solid (writeMore s depth xs ++ (s.gap outer ++ ']' :: rest)) started line column
    obtain ⟨line₂, column₂, found⟩ := head.reads limit below line₁ column₁ _ deep ends
      (by simp only [List.length_append, List.length_cons]; omega)
    rw [step, found]
    have later := ih fuel (by simpa using enough) (w :: taken) (by simp) line₂ column₂ (by omega)
    rwa [List.reverse_cons, List.append_assoc, List.singleton_append] at later

theorem length_le_writeMore (xs : List Json) : xs.length ≤ (writeMore s depth xs).length := by
  induction xs with
  | nil => exact Nat.zero_le _
  | cons x xs ih =>
    rw [writeMore_cons]
    simp only [List.length_append, List.length_cons]
    omega

theorem rereads_array (blank : s.Blank) {xs ws : List Json}
    (elements : Forall₂ (Rereads s levels) xs ws) :
    Rereads s (levels + 1) (.array xs) (.array ws) := by
  intro depth
  cases elements with
  | nil =>
    rw [write_array_nil]
    refine ⟨⟨'[', [']'], rfl, by decide, by decide⟩, ?_⟩
    intro limit below line column rest deep _ _
    obtain ⟨below, rfl⟩ := Nat.exists_eq_add_of_le' deep
    refine ⟨line, column + 2, ?_⟩
    rw [List.cons_append, List.singleton_append, ← Nat.add_assoc, readValue_array]
    rfl
  | @cons x w xs ws head tail =>
    rw [write_array_cons]
    refine ⟨⟨'[', _, rfl, by decide, by decide⟩, ?_⟩
    intro limit below line column rest deep _ covered
    obtain ⟨below, rfl⟩ : ∃ under, below = under + 1 := ⟨below - 1, by omega⟩
    have legible := tail.imp fun x w rereads => rereads (depth + 1)
    have ends := endsNumber_more (depth + 1) depth blank xs rest (.inl rfl)
    have longer := length_le_writeMore (s := s) (depth + 1) xs
    simp only [List.cons_append, List.append_assoc, List.nil_append, List.length_append,
      List.length_cons] at covered ⊢
    rw [readValue_array]
    obtain ⟨line₁, column₁, step⟩ := readElements_first (depth + 1) blank (readValue limit below)
      limit (head (depth + 1)).solid
      (writeMore s (depth + 1) xs ++ (s.gap depth ++ ']' :: rest)) line (column + 1)
    obtain ⟨line₂, column₂, found⟩ := (head (depth + 1)).reads limit below line₁ column₁ _
      (by omega) ends (by simp only [List.length_append, List.length_cons]; omega)
    rw [step, found]
    exact readElements_more (depth + 1) depth blank legible (by omega) limit (by omega) [w]
      (by simp) rest line₂ column₂ (by simp only [List.length_append, List.length_cons]; omega)

theorem rereads_map {α : Type} (blank : s.Blank) {encode : α → Json} {xs : List α}
    (each : ∀ x ∈ xs, Rereads s levels (encode x) (encode x)) :
    Rereads s (levels + 1) (.array (xs.map encode)) (.array (xs.map encode)) := by
  apply rereads_array blank
  rw [List.forall₂_same, List.forall_mem_map]
  exact each

theorem rereads_ofStrings (blank : s.Blank) (texts : List String) :
    Rereads s (levels + 1) (.ofStrings texts) (.ofStrings texts) :=
  rereads_map blank fun text _ => rereads_string text

end Arrays

theorem readValue_of_skipBlanks {limit depth : Nat} {a b : Cursor}
    (same : a.skipBlanks = b.skipBlanks) : readValue limit depth a = readValue limit depth b := by
  rw [readValue.eq_def, readValue.eq_def limit depth b]
  simp only [same]

theorem Legible.reads_after_blanks {text : Line} {value : Json}
    (legible : Legible levels text value) {blanks : Line} (blank : ∀ c ∈ blanks, IsBlank c)
    (limit depth line column : Nat) (rest : Line) (deep : levels ≤ depth) (ends : EndsNumber rest)
    (covered : (text ++ rest).length ≤ limit) :
    (readValue limit depth ⟨blanks ++ (text ++ rest), line, column⟩).Gives value rest := by
  obtain ⟨c, more, rfl, solid, _⟩ := legible.solid
  obtain ⟨line₁, column₁, skipped⟩ := skipBlanks_blanks blank (c :: more ++ rest)
    (by intro d head; cases head; exact solid) line column
  obtain ⟨line₂, column₂, found⟩ := legible.reads limit depth line₁ column₁ rest deep ends covered
  refine ⟨line₂, column₂, ?_⟩
  have same := skipBlanks_of_not_blank (more ++ rest) line₁ column₁ solid
  rw [readValue_of_skipBlanks (skipped.trans same.symm)]
  exact found

section Objects

variable (depth outer : Nat) {limit below : Nat}

theorem endsNumber_moreFields (blank : s.Blank) (fields : List (String × Json)) (rest : Line) :
    EndsNumber (writeMoreFields s depth fields ++ (s.gap outer ++ Char.ofNat 0x7D :: rest)) := by
  cases fields with
  | nil => exact endsNumber_more depth outer blank [] rest (.inr rfl)
  | cons field fields =>
    rw [writeMoreFields_cons, List.append_assoc, List.append_assoc, List.cons_append]
    exact endsNumber_cons _ (.inr (.inl rfl))

theorem readFields_field (blank : s.Blank) (key : String) {x w : Json} {rest : Line}
    (legible : Legible levels (write s depth x) w) (deep : levels ≤ below) (ends : EndsNumber rest)
    (covered : (fieldText s depth key x ++ rest).length < limit) (line column : Nat) :
    ∃ named valued : Cursor, ∃ line' column',
      readStringBody limit ⟨fieldText s depth key x ++ rest, line, column⟩ = .ok (key, named) ∧
      readColon named = .ok valued ∧
      readValue limit below valued = .ok (w, ⟨rest, line', column'⟩) := by
  simp only [fieldText, List.append_assoc, List.cons_append, List.length_append, List.length_cons]
    at covered ⊢
  obtain ⟨line₁, column₁, named⟩ := readStringBody_written key limit
    (':' :: (s.afterColon ++ (write s depth x ++ rest))) line column (by
      simp only [writeString, List.length_append, List.length_cons, List.length_nil]
      omega)
  obtain ⟨line₂, column₂, found⟩ := legible.reads_after_blanks blank.afterColon limit below line₁
    (column₁ + 1) rest deep ends (by rw [List.length_append]; omega)
  refine ⟨_, _, line₂, column₂, named, ?_, found⟩
  have colon := skipBlanks_of_not_blank (c := ':') (s.afterColon ++ (write s depth x ++ rest))
    line₁ column₁ (by decide)
  rw [readColon, colon]
  rfl

theorem readFields_close (blank : s.Blank) (element : Cursor → Read Json) (fuel : Nat)
    (taken : List (String × Json)) (rest : Line) (line column : Nat) :
    (readFields limit element (fuel + 1) taken
      ⟨s.gap outer ++ Char.ofNat 0x7D :: rest, line, column⟩).Gives
      (.object taken.reverse) rest := by
  obtain ⟨line', column', skipped⟩ := skipBlanks_blanks (blank.gap outer)
    (Char.ofNat 0x7D :: rest) (by intro c head; cases head; decide) line column
  refine ⟨line', column' + 1, ?_⟩
  rw [readFields, skipped]
  rfl

theorem readFields_first (blank : s.Blank) (key : String) {x w : Json} {rest : Line}
    (legible : Legible levels (write s depth x) w) (deep : levels ≤ below) (ends : EndsNumber rest)
    (covered : (fieldText s depth key x ++ rest).length < limit) (fuel line column : Nat) :
    ∃ line' column', readFields limit (readValue limit below) (fuel + 1) []
        ⟨s.gap depth ++ '"' :: (fieldText s depth key x ++ rest), line, column⟩ =
      readFields limit (readValue limit below) fuel [(key, w)] ⟨rest, line', column'⟩ := by
  obtain ⟨line₁, column₁, skipped⟩ := skipBlanks_blanks (blank.gap depth)
    ('"' :: (fieldText s depth key x ++ rest))
    (by intro c head; cases head; decide) line column
  obtain ⟨named, valued, line₂, column₂, name, colon, found⟩ :=
    readFields_field depth blank key legible deep ends covered line₁ (column₁ + 1)
  refine ⟨line₂, column₂, ?_⟩
  have other : ('"' : Char) ≠ Char.ofNat 0x7D := by decide
  have start : readKeyStart true '"' (fieldText s depth key x ++ rest)
      ⟨'"' :: (fieldText s depth key x ++ rest), line₁, column₁⟩ =
        .ok ⟨fieldText s depth key x ++ rest, line₁, column₁ + 1⟩ := rfl
  rw [readFields, skipped]
  simp only [if_neg other, List.isEmpty_nil, start, name, colon, found]

theorem readFields_next (blank : s.Blank) (key : String) {x w : Json} {rest : Line}
    (legible : Legible levels (write s depth x) w) (deep : levels ≤ below) (ends : EndsNumber rest)
    (covered : (fieldText s depth key x ++ rest).length < limit) (fuel : Nat)
    {taken : List (String × Json)} (started : taken ≠ []) (line column : Nat) :
    ∃ line' column', readFields limit (readValue limit below) (fuel + 1) taken
        ⟨',' :: s.gap depth ++ '"' :: (fieldText s depth key x ++ rest), line, column⟩ =
      readFields limit (readValue limit below) fuel ((key, w) :: taken) ⟨rest, line', column'⟩ := by
  obtain ⟨line₁, column₁, skipped⟩ := skipBlanks_blanks (blank.gap depth)
    ('"' :: (fieldText s depth key x ++ rest))
    (by intro c head; cases head; decide) line (column + 1)
  obtain ⟨named, valued, line₂, column₂, name, colon, found⟩ :=
    readFields_field depth blank key legible deep ends covered line₁ (column₁ + 1)
  refine ⟨line₂, column₂, ?_⟩
  have comma := skipBlanks_of_not_blank (c := ',')
    (s.gap depth ++ '"' :: (fieldText s depth key x ++ rest)) line column (by decide)
  have other : (',' : Char) ≠ Char.ofNat 0x7D := by decide
  have empty : taken.isEmpty = false := by simpa using started
  have start : readKeyStart false ',' (s.gap depth ++ '"' :: (fieldText s depth key x ++ rest))
      ⟨',' :: (s.gap depth ++ '"' :: (fieldText s depth key x ++ rest)), line, column⟩ =
        .ok ⟨fieldText s depth key x ++ rest, line₁, column₁ + 1⟩ := by
    have moved : (Cursor.mk (',' :: (s.gap depth ++ '"' :: (fieldText s depth key x ++ rest))) line
        column).past ',' (s.gap depth ++ '"' :: (fieldText s depth key x ++ rest)) =
          ⟨s.gap depth ++ '"' :: (fieldText s depth key x ++ rest), line, column + 1⟩ := rfl
    rw [readKeyStart, moved, skipped]
    rfl
  rw [List.cons_append, readFields, comma]
  simp only [if_neg other, empty, start, name, colon, found]

theorem readFields_more (blank : s.Blank) {fs gs : List (String × Json)}
    (legible : Forall₂ (fun f g => f.1 = g.1 ∧ Legible levels (write s depth f.2) g.2) fs gs)
    (deep : levels ≤ below) (fuel : Nat) (enough : fs.length < fuel)
    (taken : List (String × Json)) (started : taken ≠ []) (rest : Line) (line column : Nat)
    (covered : (writeMoreFields s depth fs ++ (s.gap outer ++ Char.ofNat 0x7D :: rest)).length ≤
      limit) :
    (readFields limit (readValue limit below) fuel taken
      ⟨writeMoreFields s depth fs ++ (s.gap outer ++ Char.ofNat 0x7D :: rest), line, column⟩).Gives
      (.object (taken.reverse ++ gs)) rest := by
  induction legible generalizing fuel taken line column with
  | nil =>
    obtain ⟨fuel, rfl⟩ := Nat.exists_eq_add_one_of_ne_zero (Nat.ne_of_gt enough)
    rw [writeMoreFields_nil, List.nil_append, List.append_nil]
    exact readFields_close outer blank _ fuel taken rest line column
  | @cons f g fs gs head tail ih =>
    obtain ⟨fuel, rfl⟩ := Nat.exists_eq_add_one_of_ne_zero (Nat.ne_of_gt (Nat.zero_lt_of_lt enough))
    obtain ⟨key, x⟩ := f
    obtain ⟨_, w⟩ := g
    obtain ⟨rfl, legible⟩ := head
    have ends := endsNumber_moreFields depth outer blank fs rest
    rw [writeMoreFields_cons, List.append_assoc, List.append_assoc, List.cons_append (a := '"')]
      at covered ⊢
    simp only [List.length_append, List.length_cons] at covered ih
    have room : (fieldText s depth key x ++ (writeMoreFields s depth fs ++
        (s.gap outer ++ Char.ofNat 0x7D :: rest))).length < limit := by
      simp only [List.length_append, List.length_cons]
      omega
    obtain ⟨line₁, column₁, step⟩ := readFields_next depth blank key legible deep ends room fuel
      started line column
    rw [step]
    have later := ih fuel (by simpa using enough) ((key, w) :: taken) (by simp) line₁ column₁
      (by omega)
    rwa [List.reverse_cons, List.append_assoc, List.singleton_append] at later

theorem length_le_writeMoreFields (fields : List (String × Json)) :
    fields.length ≤ (writeMoreFields s depth fields).length := by
  induction fields with
  | nil => exact Nat.zero_le _
  | cons field fields ih =>
    rw [writeMoreFields_cons]
    simp only [List.length_append, List.length_cons]
    omega

theorem rereads_object (blank : s.Blank) {fs gs : List (String × Json)}
    (fields : Forall₂ (fun f g => f.1 = g.1 ∧ Rereads s levels f.2 g.2) fs gs) :
    Rereads s (levels + 1) (.object fs) (.object gs) := by
  intro depth
  cases fields with
  | nil =>
    rw [write_object_nil]
    refine ⟨⟨Char.ofNat 0x7B, [Char.ofNat 0x7D], rfl, by decide, by decide⟩, ?_⟩
    intro limit below line column rest deep _ _
    obtain ⟨below, rfl⟩ := Nat.exists_eq_add_of_le' deep
    refine ⟨line, column + 2, ?_⟩
    rw [List.cons_append, List.singleton_append, ← Nat.add_assoc, readValue_object]
    rfl
  | @cons f g fs gs head tail =>
    obtain ⟨key, x⟩ := f
    obtain ⟨_, w⟩ := g
    obtain ⟨rfl, rereads⟩ := head
    rw [write_object_cons]
    refine ⟨⟨Char.ofNat 0x7B, _, rfl, by decide, by decide⟩, ?_⟩
    intro limit below line column rest deep _ covered
    obtain ⟨below, rfl⟩ : ∃ under, below = under + 1 := ⟨below - 1, by omega⟩
    have legible := tail.imp fun f g both => And.intro both.1 (both.2 (depth + 1))
    have ends := endsNumber_moreFields (depth + 1) depth blank fs rest
    have longer := length_le_writeMoreFields (s := s) (depth + 1) fs
    simp only [List.cons_append, List.append_assoc, List.nil_append, List.length_append,
      List.length_cons] at covered ⊢
    rw [readValue_object]
    have room : (fieldText s (depth + 1) key x ++ (writeMoreFields s (depth + 1) fs ++
        (s.gap depth ++ Char.ofNat 0x7D :: rest))).length < limit := by
      simp only [List.length_append, List.length_cons]
      omega
    obtain ⟨line₁, column₁, step⟩ := readFields_first (depth + 1) blank key (rereads (depth + 1))
      (show levels ≤ below by omega) ends room limit line (column + 1)
    rw [step]
    exact readFields_more (depth + 1) depth blank legible (by omega) limit (by omega) [(key, w)]
      (by simp) rest line₁ column₁ (by simp only [List.length_append, List.length_cons]; omega)

end Objects

/-- A whole text that was written is read back. -/
theorem read_write {value reread : Json} (rereads : Rereads s levels value reread)
    (deep : levels ≤ deepest) : read (write s 0 value) = .ok reread := by
  obtain ⟨line, column, found⟩ := (rereads 0).reads (write s 0 value).length deepest 1 0 [] deep
    endsNumber_nil (by simp)
  rw [List.append_nil] at found
  rw [read, Cursor.start, found]
  rfl

theorem ofText_toPretty {value reread : Json} (rereads : Rereads prettySpacing levels value reread)
    (deep : levels ≤ deepest) : ofText (toPretty value) = .ok reread := by
  rw [ofText, toPretty, String.toList_ofList]
  exact read_write rereads deep

theorem ofText_toCompact {value reread : Json}
    (rereads : Rereads compactSpacing levels value reread) (deep : levels ≤ deepest) :
    ofText (toCompact value) = .ok reread := by
  rw [ofText, toCompact, String.toList_ofList]
  exact read_write rereads deep

end CodeAtlas.Json
