import CodeAtlas.Text.Lines

/-!
Splitting at a character, by way of the list library's splitting.
-/
namespace CodeAtlas.Text

theorem splitAll_eq (p : Char → Bool) (s : Line) : splitAll p s = s.splitOnP p := by
  induction s with
  | nil => rfl
  | cons c rest ih =>
    have step : splitAll p (c :: rest) = splitAll.step p c (splitAll p rest) := rfl
    rw [step, ih, List.splitOnP_cons_eq_if_modifyHead]
    cases pieces : rest.splitOnP p with
    | nil => exact absurd pieces (List.splitOnP_ne_nil p rest)
    | cons piece others => rfl

theorem splitOn_eq (separator : Char) (s : Line) : splitOn separator s = s.splitOn separator :=
  splitAll_eq (· == separator) s

theorem splitOn_nil (separator : Char) : splitOn separator [] = [[]] := rfl

theorem splitOn_ne_nil (separator : Char) (s : Line) : splitOn separator s ≠ [] := by
  rw [splitOn_eq]
  exact List.splitOn_ne_nil separator s

theorem splitOn_append (separator : Char) (s t : Line) :
    splitOn separator (s ++ separator :: t) = splitOn separator s ++ splitOn separator t := by
  simp only [splitOn_eq, List.splitOn_append_cons_self]

theorem splitOn_of_not_mem {separator : Char} {s : Line} (absent : separator ∉ s) :
    splitOn separator s = [s] := by
  rw [splitOn_eq]
  exact List.splitOn_eq_singleton absent

theorem not_mem_of_splitOn (separator : Char) (s : Line) :
    ∀ piece ∈ splitOn separator s, separator ∉ piece := by
  rw [splitOn_eq]
  induction s with
  | nil => simp
  | cons c rest ih =>
    rw [List.splitOn_cons_eq_if_modifyHead]
    split
    · simpa using ih
    · rename_i other
      have differs : separator ≠ c := by
        rintro rfl
        exact other BEq.rfl
      cases pieces : rest.splitOn separator with
      | nil => exact absurd pieces (List.splitOn_ne_nil separator rest)
      | cons piece others =>
        rw [pieces] at ih
        simpa [differs] using ih

theorem intercalate_splitOn (separator : Char) (s : Line) :
    [separator].intercalate (splitOn separator s) = s := by
  rw [splitOn_eq]
  exact List.intercalate_splitOn separator

theorem intercalate_concat_nil (separator : Char) (pieces : List Line) (some_piece : pieces ≠ []) :
    [separator].intercalate (pieces ++ [[]]) = [separator].intercalate pieces ++ [separator] := by
  induction pieces with
  | nil => exact absurd rfl some_piece
  | cons piece rest ih =>
    cases rest with
    | nil => simp
    | cons next others =>
      have later := ih (List.cons_ne_nil next others)
      simp only [List.cons_append, List.intercalate_cons_cons] at later ⊢
      rw [later]
      simp only [List.append_assoc]

theorem getLast_of_splitOn {separator : Char} {s : Line} {before : List Line}
    (pieces : splitOn separator s = before ++ [[]]) (some_before : before ≠ []) :
    s.getLast? = some separator := by
  have whole := intercalate_splitOn separator s
  rw [pieces, intercalate_concat_nil separator before some_before] at whole
  rw [← whole, List.getLast?_append]
  rfl

end CodeAtlas.Text
