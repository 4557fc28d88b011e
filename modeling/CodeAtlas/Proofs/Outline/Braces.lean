import CodeAtlas.Proofs.Outline.Counting
import Mathlib.Data.List.GetD
import Mathlib.Data.List.TakeWhile
import Mathlib.Tactic.ByContra

/-!
Where brace blocks end. A block runs over all lines behind which there is more of it to come: until a
brace has been opened, these are the lines whose declaration goes on, and from then on the lines
behind which braces are open. It ends with the first other line, or with the file.
-/
namespace CodeAtlas.Outline

variable {lines : List Line} {start i e : Nat}

def netBraces (lines : List Line) (first last : Nat) : Int :=
  let text := (span lines first last).flatten
  text.count (Char.ofNat 0x7B) - text.count (Char.ofNat 0x7D)

def OpensBrace (lines : List Line) (i : Nat) : Prop := Char.ofNat 0x7B ∈ lines.getD i []

def OpenedBelow (lines : List Line) (i : Nat) : Prop :=
  ∃ j, i < j ∧ (∀ k, i < k → k < j → Text.allBlank (lines.getD k []) = true) ∧
    (Text.trimStart (lines.getD j [])).head? = some (Char.ofNat 0x7B)

def GoesOn (lines : List Line) (i : Nat) : Prop :=
  continues (lines.getD i []) = true ∨ OpenedBelow lines i

def EndsStatement (lines : List Line) (i : Nat) : Prop :=
  (Text.trimEnd (lines.getD i [])).getLast? = some ';'

/-! How far a block runs from its header on -/

section Tail

variable {depth : Int32} {opened : Bool} {line next : Line} {rest : List Line}

def Stays (depth : Int32) (opened : Bool) (rest : List Line) (i : Nat) : Prop :=
  if opened || (rest.take (i + 1)).any opensBrace then
    0 < depth + braceNet (rest.take (i + 1)).flatten
  else
    endsStatement (rest.getD i []) = false ∧
      (continues (rest.getD i []) || nextOpens (rest.drop (i + 1))) = true

theorem stays_succ : Stays depth opened (line :: rest) (i + 1) ↔
    Stays (depth + braceNet line) (opened || opensBrace line) rest i := by
  simp [Stays, Bool.or_assoc, braceNet_append, Int32.add_assoc]

theorem blockTail_of_stays (stays : Stays depth opened (line :: next :: rest) 0) :
    blockTail depth opened (line :: next :: rest) =
      1 + blockTail (depth + braceNet line) (opened || opensBrace line) (next :: rest) := by
  rw [blockTail]
  cases begun : opened || opensBrace line <;> simp [Stays, begun] at stays
  · rcases stays with ⟨unended, on | on⟩ <;> simp [unended, on]
  · simp [Int32.not_le.mpr stays]

theorem blockTail_of_not_stays (no_more : ¬ Stays depth opened (line :: next :: rest) 0) :
    blockTail depth opened (line :: next :: rest) = 0 := by
  rw [blockTail]
  cases begun : opened || opensBrace line <;> simp [Stays, begun] at no_more
  · cases ended : endsStatement line
    · simp [no_more ended]
    · simp
  · simp [no_more]

theorem stays_before_blockTail (before : i < blockTail depth opened rest) :
    Stays depth opened rest i := by
  induction rest generalizing depth opened i with
  | nil => cases before
  | cons line rest ih =>
    cases rest with
    | nil => cases before
    | cons next rest =>
      by_cases stays : Stays depth opened (line :: next :: rest) 0
      · cases i with
        | zero => exact stays
        | succ i =>
          rw [blockTail_of_stays stays] at before
          exact stays_succ.mpr (ih (by omega))
      · rw [blockTail_of_not_stays stays] at before
        cases before

theorem over_at_blockTail (line : Line) (rest : List Line) :
    let last := blockTail depth opened (line :: rest)
    last + 1 = (line :: rest).length ∨ ¬ Stays depth opened (line :: rest) last := by
  induction rest generalizing depth opened line with
  | nil => exact .inl rfl
  | cons next rest ih =>
    intro last
    by_cases stays : Stays depth opened (line :: next :: rest) 0
    · have one_on : last = blockTail (depth + braceNet line) (opened || opensBrace line)
          (next :: rest) + 1 := (blockTail_of_stays stays).trans (Nat.add_comm 1 _)
      rw [one_on, stays_succ]
      exact (ih next).imp (congrArg (· + 1)) id
    · have here : last = 0 := blockTail_of_not_stays stays
      rw [here]
      exact .inr stays

end Tail

/-! The same by places in the file -/

theorem take_drop_eq_span (lines : List Line) (start i : Nat) :
    (lines.drop start).take (i + 1) = span lines start (start + i) := by
  rw [span, List.drop_take]
  congr 1
  omega

theorem getD_drop (lines : List Line) (n k : Nat) :
    (lines.drop n).getD k [] = lines.getD (n + k) [] := by
  rw [List.getD_eq_getElem?_getD, List.getD_eq_getElem?_getD, List.getElem?_drop]

theorem nextOpens_iff (rest : List Line) : nextOpens rest = true ↔
    ∃ j, (∀ k < j, Text.allBlank (rest.getD k []) = true) ∧
      (Text.trimStart (rest.getD j [])).head? = some (Char.ofNat 0x7B) := by
  induction rest with
  | nil => simp [nextOpens, firstNonBlank?, Text.trimStart]
  | cons line rest ih =>
    cases blank : Text.allBlank line with
    | true =>
      have skipped : nextOpens (line :: rest) = nextOpens rest := by
        simp [nextOpens, firstNonBlank?, blank]
      have nothing : Text.trimStart line = [] :=
        List.dropWhile_eq_nil_iff.mpr (List.all_eq_true.mp blank)
      rw [skipped, ih]
      constructor
      · rintro ⟨j, blanks, opens⟩
        refine ⟨j + 1, ?_, opens⟩
        rintro (_ | k) before
        · exact blank
        · exact blanks k (Nat.lt_of_succ_lt_succ before)
      · rintro ⟨_ | j, blanks, opens⟩
        · rw [List.getD_cons_zero, nothing] at opens
          cases opens
        · exact ⟨j, fun k before => blanks (k + 1) (Nat.succ_lt_succ before), opens⟩
    | false =>
      have found : nextOpens (line :: rest) = true ↔
          (Text.trimStart line).head? = some (Char.ofNat 0x7B) := by
        simp [nextOpens, firstNonBlank?, blank]
      rw [found]
      constructor
      · exact fun opens => ⟨0, fun k before => absurd before (Nat.not_lt_zero k), opens⟩
      · rintro ⟨_ | j, blanks, opens⟩
        · exact opens
        · have first := blanks 0 (Nat.succ_pos j)
          rw [List.getD_cons_zero, blank] at first
          cases first

theorem nextOpens_drop_iff (lines : List Line) (i : Nat) :
    nextOpens (lines.drop (i + 1)) = true ↔ OpenedBelow lines i := by
  rw [nextOpens_iff]
  simp only [getD_drop]
  constructor
  · rintro ⟨j, blanks, opens⟩
    refine ⟨i + 1 + j, by omega, ?_, opens⟩
    intro k above below
    obtain ⟨n, rfl⟩ := Nat.exists_eq_add_of_le above
    exact blanks n (by omega)
  · rintro ⟨j, above, blanks, opens⟩
    obtain ⟨n, rfl⟩ := Nat.exists_eq_add_of_le above
    exact ⟨n, fun k before => blanks (i + 1 + k) (by omega) (by omega), opens⟩

theorem any_span_iff (ordered : start ≤ i) : (span lines start i).any opensBrace = true ↔
    ∃ k, start ≤ k ∧ k ≤ i ∧ OpensBrace lines k := by
  simp only [List.any_eq_true, opensBrace, List.contains_iff_mem, OpensBrace]
  constructor
  · rintro ⟨line, member, opening⟩
    obtain ⟨n, inside, rfl⟩ := List.mem_iff_getElem.mp member
    rw [span, List.length_drop, List.length_take] at inside
    refine ⟨start + n, by omega, by omega, ?_⟩
    rw [List.getD_eq_getElem _ _ (by omega)]
    simpa [span] using opening
  · rintro ⟨k, above, below, opening⟩
    have inside : k < lines.length := by
      by_contra outside
      rw [List.getD_eq_default _ _ (Nat.le_of_not_lt outside)] at opening
      cases opening
    rw [List.getD_eq_getElem _ _ inside] at opening
    refine ⟨_, ?_, opening⟩
    rw [span, List.mem_drop_iff_getElem]
    refine ⟨k - start, by rw [List.length_take]; omega, ?_⟩
    rw [List.getElem_take]
    congr 1
    omega

def Opened (lines : List Line) (start i : Nat) : Prop :=
  ∃ k, start ≤ k ∧ k ≤ i ∧ OpensBrace lines k

def counted (lines : List Line) (start i : Nat) : Int32 := braceNet (span lines start i).flatten

theorem netBraces_eq (lines : List Line) (first last : Nat) :
    netBraces lines first last = total braceShift (span lines first last).flatten :=
  (total_braceShift _).symm

theorem counted_eq (lines : List Line) (start i : Nat) :
    counted lines start i = Int32.ofInt (netBraces lines start i) := by
  rw [counted, braceNet_eq_ofInt, netBraces_eq]

theorem toInt_counted (lines : List Line) (start i : Nat) :
    (counted lines start i).toInt = (netBraces lines start i).bmod (2 ^ 32) := by
  rw [counted_eq]
  exact Int32.toInt_ofInt

theorem span_piece (lines : List Line) (start i : Nat) : span lines start i <:+: lines :=
  (List.drop_suffix _ _).isInfix.trans (List.take_prefix _ _).isInfix

theorem toInt_counted_of_few (few : FewBrackets lines.flatten) (start i : Nat) :
    (counted lines start i).toInt = netBraces lines start i := by
  rw [counted, toInt_braceNet few (span_piece lines start i).flatten, netBraces_eq]

structure Unfinished (lines : List Line) (start i : Nat) : Prop where
  body : Opened lines start i → 0 < (counted lines start i).toInt
  header : ¬ Opened lines start i → ¬ EndsStatement lines i ∧ GoesOn lines i

theorem stays_drop_iff (lines : List Line) (start i : Nat) :
    Stays 0 false (lines.drop start) i ↔ Unfinished lines start (start + i) := by
  have found : (span lines start (start + i)).any opensBrace = true ↔
      Opened lines start (start + i) := any_span_iff (Nat.le_add_right start i)
  rw [Stays, take_drop_eq_span, Bool.false_or, Int32.zero_add, ← counted, List.drop_drop,
    ← Nat.add_assoc, getD_drop, Bool.or_eq_true, nextOpens_drop_iff, Int32.lt_iff_toInt_lt,
    Int32.toInt_zero]
  by_cases opened : Opened lines start (start + i)
  · rw [if_pos (found.mpr opened)]
    exact ⟨fun more => ⟨fun _ => more, fun unopened => absurd opened unopened⟩,
      fun unfinished => unfinished.body opened⟩
  · rw [if_neg (mt found.mp opened)]
    have same : endsStatement (lines.getD (start + i) []) = false ↔
        ¬ EndsStatement lines (start + i) := by
      simp [EndsStatement, endsStatement]
    rw [same]
    exact ⟨fun more => ⟨fun begun => absurd begun opened, fun _ => more⟩,
      fun unfinished => unfinished.header opened⟩

theorem unfinished_before (begun : start ≤ i) (before : i < braceBlockEnd lines start) :
    Unfinished lines start i := by
  obtain ⟨n, rfl⟩ := Nat.exists_eq_add_of_le begun
  exact (stays_drop_iff lines start n).mp
    (stays_before_blockTail (Nat.lt_of_add_lt_add_left before))

theorem finished_at_end (inside : start < lines.length) :
    braceBlockEnd lines start + 1 = lines.length ∨
      ¬ Unfinished lines start (braceBlockEnd lines start) := by
  unfold braceBlockEnd
  rw [← stays_drop_iff]
  cases rest : lines.drop start with
  | nil =>
    have outside := List.drop_eq_nil_iff.mp rest
    omega
  | cons line below =>
    have length := congrArg List.length rest
    rw [List.length_drop] at length
    have ends : _ ∨ ¬ Stays 0 false (line :: below) (blockTail 0 false (line :: below)) :=
      over_at_blockTail line below
    rcases ends with last | ended
    · left
      omega
    · exact .inr ended

/-- A block from `start` to `e`, where `net i` braces are open behind line `i`. Lines above the first
opening brace end no statement, and go on; behind that line and all further ones but the last, braces
are open, and behind the last none is, unless the file ends there. Without an opening brace the block
ends with the first line that ends a statement or does not go on, or with the file. -/
structure IsBlock (lines : List Line) (net : Nat → Int) (start e : Nat) : Prop where
  ordered : start ≤ e
  inside : e < lines.length
  header : ∀ f, start ≤ f → f ≤ e → (∀ k, start ≤ k → k < f → ¬ OpensBrace lines k) →
    ∀ i, start ≤ i → i < f → ¬ EndsStatement lines i ∧ GoesOn lines i
  body : ∀ f, start ≤ f → f ≤ e → OpensBrace lines f →
    (∀ k, start ≤ k → k < f → ¬ OpensBrace lines k) →
      (∀ i, f ≤ i → i < e → 0 < net i) ∧ (net e ≤ 0 ∨ e + 1 = lines.length)
  unopened : (∀ k, start ≤ k → k ≤ e → ¬ OpensBrace lines k) →
    EndsStatement lines e ∨ ¬ GoesOn lines e ∨ e + 1 = lines.length

theorem isBlock_counted (inside : start < lines.length) :
    IsBlock lines (fun i => (counted lines start i).toInt) start (braceBlockEnd lines start) := by
  have finished := finished_at_end inside
  constructor
  · exact le_braceBlockEnd lines start
  · exact braceBlockEnd_lt inside
  · intro f _ before first i above below
    apply (unfinished_before above (by omega)).header
    rintro ⟨k, from_start, upto, earlier⟩
    exact first k from_start (by omega) earlier
  · intro f begun before opening _
    refine ⟨?_, ?_⟩
    · intro i from_first upto
      exact (unfinished_before (by omega) upto).body ⟨f, begun, from_first, opening⟩
    · rcases finished with last | ended
      · exact .inr last
      · left
        by_contra open_still
        exact ended ⟨fun _ => Int.not_le.mp open_still,
          fun unopened => absurd ⟨f, begun, before, opening⟩ unopened⟩
  · intro none_opens
    have unopened : ¬ Opened lines start (braceBlockEnd lines start) := by
      rintro ⟨k, above, below, opening⟩
      exact none_opens k above below opening
    rcases finished with last | ended
    · exact .inr (.inr last)
    · by_contra going
      simp only [not_or, not_not] at going
      exact ended ⟨fun opened => absurd opened unopened, fun _ => ⟨going.1, going.2.1⟩⟩

theorem take_succ_eq (ordered : start ≤ e) :
    lines.take (e + 1) = lines.take start ++ span lines start e := by
  have parted := List.take_append_drop start (lines.take (e + 1))
  rw [List.take_take, Nat.min_eq_left (by omega)] at parted
  exact parted.symm

theorem depthAt_behind (ordered : start ≤ e) (inside : e + 1 < lines.length) :
    depthAt lines (e + 1) = depthAt lines start + counted lines start e := by
  rw [depthAt_eq inside, depthAt_eq (by omega), take_succ_eq ordered, List.flatten_append,
    braceNet_append, counted]

end CodeAtlas.Outline
