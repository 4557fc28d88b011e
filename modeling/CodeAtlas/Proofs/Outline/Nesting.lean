import CodeAtlas.Proofs.Outline.Counting

/-!
Blocks inside blocks. Where a block is still open at a line inside it, a block whose header stands
there ends no later, provided that it opens a brace among the lines of the outer one: from there on
both count the same braces, and the inner one counts them from no greater depth. For that the counts
must not overflow.
-/
namespace CodeAtlas.Outline

theorem total_of_plain {line : Line} (plain : opensBrace line = false) :
    total braceShift line ≤ 0 := by
  have none_opens : line.count (Char.ofNat 0x7B) = 0 := by
    rw [List.count_eq_zero]
    simpa [opensBrace] using plain
  rw [total_braceShift]
  omega

theorem total_flatten_of_plain {lines : List Line} (plain : lines.any opensBrace = false) :
    total braceShift lines.flatten ≤ 0 := by
  induction lines with
  | nil => exact Int.le_refl 0
  | cons line lines ih =>
    rw [List.any_cons, Bool.or_eq_false_iff] at plain
    rw [List.flatten_cons, total_append]
    exact Int.add_le_add (total_of_plain plain.1) (ih plain.2)

/-! Lines of one block -/

theorem blockTail_next {depth : Int32} {opened : Bool} {line : Line} {rest : List Line}
    (further : 0 < blockTail depth opened (line :: rest)) :
    blockTail depth opened (line :: rest) =
      1 + blockTail (depth + braceNet line) (opened || opensBrace line) rest := by
  cases rest with
  | nil => exact absurd further (Nat.lt_irrefl 0)
  | cons next rest =>
    simp only [blockTail] at further ⊢
    grind

theorem blockTail_open (depth : Int32) (line next : Line) (rest : List Line) :
    blockTail depth true (line :: next :: rest) =
      if depth + braceNet line ≤ 0 then 0
      else 1 + blockTail (depth + braceNet line) true (next :: rest) := rfl

/-- From any of its lines on, a block goes on with the braces that are open there. -/
theorem blockTail_drop {depth : Int32} {opened : Bool} {lines : List Line} {n : Nat}
    (within : n ≤ blockTail depth opened lines) :
    blockTail depth opened lines = n + blockTail (depth + braceNet (lines.take n).flatten)
      (opened || (lines.take n).any opensBrace) (lines.drop n) := by
  induction n generalizing depth opened lines with
  | zero => simp [braceNet]
  | succ n ih =>
    cases lines with
    | nil => exact absurd within (Nat.not_succ_le_zero n)
    | cons line rest =>
      have first := blockTail_next (Nat.lt_of_lt_of_le (Nat.succ_pos n) within)
      rw [first] at within ⊢
      rw [ih (by omega), List.take_succ_cons, List.drop_succ_cons, List.any_cons, Bool.or_assoc,
        List.flatten_cons, braceNet_append, Int32.add_assoc]
      omega

/-! Two blocks -/

def Holds (depth : Int32) (lines : List Line) : Prop :=
  ∀ n, (depth + braceNet (lines.take n).flatten).toInt =
    depth.toInt + total braceShift (lines.take n).flatten

theorem holds_of_few {text front : Line} {lines : List Line} (few : FewBrackets text)
    (piece : front ++ lines.flatten <:+: text) : Holds (braceNet front) lines := by
  intro n
  have shorter : front ++ (lines.take n).flatten <:+: text := by
    refine List.IsInfix.trans ⟨[], (lines.drop n).flatten, ?_⟩ piece
    rw [List.nil_append, List.append_assoc, ← List.flatten_append, List.take_append_drop]
  have first : front <:+: text := (List.prefix_append _ _).isInfix.trans piece
  rw [← braceNet_append, toInt_braceNet few shorter, toInt_braceNet few first, total_append]

section Depths

variable {depth inner outer : Int32} {line : Line} {lines rest : List Line}

theorem Holds.head (holds : Holds depth (line :: rest)) :
    (depth + braceNet line).toInt = depth.toInt + total braceShift line := by
  simpa using holds 1

theorem Holds.tail (holds : Holds depth (line :: rest)) : Holds (depth + braceNet line) rest := by
  intro n
  have further := holds (n + 1)
  rw [List.take_succ_cons, List.flatten_cons, braceNet_append, total_append] at further
  rw [Int32.add_assoc, further, holds.head, Int.add_assoc]

theorem Holds.add_le (lower : inner ≤ outer) (within : Holds inner (line :: rest))
    (around : Holds outer (line :: rest)) : inner + braceNet line ≤ outer + braceNet line := by
  rw [Int32.le_iff_toInt_le] at lower ⊢
  rw [within.head, around.head]
  exact Int.add_le_add_right lower _

theorem blockTail_mono (lower : inner ≤ outer) (within : Holds inner lines)
    (around : Holds outer lines) : blockTail inner true lines ≤ blockTail outer true lines := by
  induction lines generalizing inner outer with
  | nil => exact Nat.le_refl 0
  | cons line rest ih =>
    cases rest with
    | nil => exact Nat.le_refl 0
    | cons next rest =>
      have below := Holds.add_le lower within around
      have later := ih below within.tail around.tail
      rw [blockTail_open, blockTail_open]
      split
      · exact Nat.zero_le _
      · rename_i deep
        rw [if_neg fun closed => deep (Int32.le_trans below closed)]
        exact Nat.add_le_add_left later 1

theorem blockTail_inside (lower : inner ≤ outer) (within : Holds inner lines)
    (around : Holds outer lines)
    (opens : ∃ j ≤ blockTail outer true lines, ∃ line, lines[j]? = some line ∧
      opensBrace line = true) :
    blockTail inner false lines ≤ blockTail outer true lines := by
  induction lines generalizing inner outer with
  | nil => exact Nat.le_refl 0
  | cons line rest ih =>
    obtain ends | further := Nat.eq_zero_or_pos (blockTail inner false (line :: rest))
    · exact ends ▸ Nat.zero_le _
    have below := Holds.add_le lower within around
    rw [blockTail_next further]
    cases rest with
    | nil => exact absurd further (Nat.lt_irrefl 0)
    | cons next rest =>
      cases opening : opensBrace line with
      | true =>
        -- From here on both are open, and what closes the outer block closes this one.
        have deep : ¬ inner + braceNet line ≤ 0 := by
          intro closed
          simp [blockTail, opening, closed] at further
        rw [blockTail_open, if_neg fun closed => deep (Int32.le_trans below closed)]
        exact Nat.add_le_add_left (blockTail_mono below within.tail around.tail) 1
      | false =>
        obtain ⟨j, among, brace, stands, opens⟩ := opens
        cases j with
        | zero =>
          cases stands
          exact absurd opens (Bool.eq_false_iff.mp opening)
        | succ j =>
          have outside := blockTail_next (Nat.lt_of_lt_of_le (Nat.succ_pos j) among)
          rw [Bool.true_or] at outside
          rw [outside] at among ⊢
          exact Nat.add_le_add_left
            (ih below within.tail around.tail ⟨j, by omega, brace, stands, opens⟩) 1

end Depths

/-! Blocks by their headers -/

variable {lines : List Line} {p i : Nat}

/-- The block of a line deeper inside another block, if it opens a brace inside that block. -/
theorem braceBlockEnd_inside (few : FewBrackets lines.flatten) (below : p < i)
    (within : i ≤ braceBlockEnd lines p) (inside : i < lines.length)
    (deeper : depthAt lines p < depthAt lines i)
    (opens : ∃ j line, i ≤ j ∧ j ≤ braceBlockEnd lines p ∧ lines[j]? = some line ∧
      opensBrace line = true) :
    braceBlockEnd lines i ≤ braceBlockEnd lines p := by
  obtain ⟨n, rfl⟩ := Nat.exists_eq_add_of_lt below
  let between := (lines.drop p).take (n + 1)
  have parted : lines.take (p + n + 1) = lines.take p ++ between := by
    rw [Nat.add_assoc, List.take_add]
  have positive : 0 < total braceShift between.flatten := by
    rw [Int32.lt_iff_toInt_lt, toInt_depthAt few inside, toInt_depthAt few (by omega), parted,
      List.flatten_append, total_append] at deeper
    omega
  have opened : between.any opensBrace = true := by
    apply Bool.not_eq_false _ |>.mp
    intro plain
    exact Int.not_lt.mpr (total_flatten_of_plain plain) positive
  -- The lines in between leave a brace open, so the outer block goes on below them as an open one.
  have tail :=
    calc blockTail 0 false (lines.drop p)
      _ = n + 1 + blockTail (0 + braceNet between.flatten) (false || between.any opensBrace)
          ((lines.drop p).drop (n + 1)) := blockTail_drop (by unfold braceBlockEnd at within; omega)
      _ = n + 1 + blockTail (braceNet between.flatten) true (lines.drop (p + n + 1)) := by
        rw [Int32.zero_add, Bool.false_or, opened, List.drop_drop, ← Nat.add_assoc]
  have whole : between.flatten ++ (lines.drop (p + n + 1)).flatten = (lines.drop p).flatten := by
    rw [← List.flatten_append, Nat.add_assoc, ← List.drop_drop, List.take_append_drop]
  have around : Holds (braceNet between.flatten) (lines.drop (p + n + 1)) :=
    holds_of_few few (whole ▸ (List.drop_suffix _ _).isInfix.flatten)
  have inner : Holds 0 (lines.drop (p + n + 1)) :=
    @holds_of_few _ [] _ few (List.drop_suffix _ _).isInfix.flatten
  have ends : blockTail 0 false (lines.drop (p + n + 1)) ≤
      blockTail (braceNet between.flatten) true (lines.drop (p + n + 1)) := by
    refine blockTail_inside ?_ inner around ?_
    · have piece : between <:+: lines :=
        (List.take_prefix _ _).isInfix.trans (List.drop_suffix _ _).isInfix
      rw [Int32.le_iff_toInt_le, toInt_braceNet few piece.flatten]
      exact Int.le_of_lt positive
    · obtain ⟨j, line, after, among, stands, opens⟩ := opens
      unfold braceBlockEnd at among
      refine ⟨j - (p + n + 1), by omega, line, ?_, opens⟩
      rw [List.getElem?_drop, Nat.add_sub_cancel' after, stands]
  unfold braceBlockEnd
  omega

end CodeAtlas.Outline
