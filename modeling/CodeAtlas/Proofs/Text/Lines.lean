import CodeAtlas.Proofs.Text.Split

/-!
Lines hold no line feeds, and joined lines hold one between any two neighbours.
-/
namespace CodeAtlas.Text

theorem eq_of_stripPrefix {start s rest : Line} (stripped : stripPrefix? start s = some rest) :
    s = start ++ rest := by
  induction start generalizing s with
  | nil =>
    cases stripped
    rfl
  | cons p ps ih =>
    cases s with
    | nil => cases stripped
    | cons c cs =>
      rw [stripPrefix?] at stripped
      split at stripped
      · rename_i same
        rw [same, ih stripped, List.cons_append]
      · cases stripped

theorem stripPrefix_append (start rest : Line) :
    stripPrefix? start (start ++ rest) = some rest := by
  induction start with
  | nil => cases rest <;> rfl
  | cons c cs ih => rw [List.cons_append, stripPrefix?, if_pos rfl, ih]

theorem mem_of_mem_chomp {s : Line} {c : Char} (member : c ∈ chomp s) : c ∈ s := by
  unfold chomp at member
  cases stripped : stripSuffix? ['\r'] s with
  | none =>
    rw [stripped] at member
    exact member
  | some rest =>
    rw [stripped] at member
    obtain ⟨back, found, rfl⟩ := Option.map_eq_some_iff.mp stripped
    have whole := eq_of_stripPrefix found
    rw [← List.mem_reverse, whole]
    exact List.mem_append_right _ (List.mem_reverse.mp member)

theorem not_mem_of_closeLines {c : Char} (pieces : List Line)
    (absent : ∀ piece ∈ pieces, c ∉ piece) :
    ∀ line ∈ closeLines pieces, c ∉ line := by
  fun_induction closeLines pieces with
  | case1 => intro line member; cases member
  | case2 last _ => intro line member; cases member
  | case3 last _ => exact absent
  | case4 piece next rest ih =>
    intro line member
    rcases List.mem_cons.mp member with rfl | later
    · exact fun inside => absent piece List.mem_cons_self (mem_of_mem_chomp inside)
    · exact ih (fun p among => absent p (List.mem_cons_of_mem _ among)) line later

theorem not_mem_of_lines (s : Line) : ∀ line ∈ lines s, '\n' ∉ line :=
  not_mem_of_closeLines _ (not_mem_of_splitOn '\n' s)

theorem count_joinLines (pieces : List Line) (absent : ∀ piece ∈ pieces, '\n' ∉ piece) :
    (joinLines pieces).count '\n' = pieces.length - 1 := by
  unfold joinLines
  fun_induction join ['\n'] pieces with
  | case1 => rfl
  | case2 piece => exact List.count_eq_zero.mpr (absent piece List.mem_cons_self)
  | case3 piece next rest ih =>
    have first := List.count_eq_zero.mpr (absent piece List.mem_cons_self)
    have others := ih fun p among => absent p (List.mem_cons_of_mem _ among)
    rw [List.count_append, List.count_append, first, others, List.count_singleton_self]
    simp only [List.length_cons]
    omega

theorem closeLines_append (front : List Line) {back : List Line} (some_back : back ≠ []) :
    closeLines (front ++ back) = front.map chomp ++ closeLines back := by
  induction front with
  | nil => rfl
  | cons piece front ih =>
    cases pieces : front ++ back with
    | nil => exact absurd (List.append_eq_nil_iff.mp pieces).2 some_back
    | cons next rest =>
      rw [List.cons_append, pieces, closeLines, ← pieces, ih, List.map_cons, List.cons_append]

/-- A text that is empty or ends with a line feed does not share a line with what follows it. -/
theorem lines_append {s : Line} (closed : s = [] ∨ s.getLast? = some '\n') (t : Line) :
    lines (s ++ t) = lines s ++ lines t := by
  rcases closed with rfl | fed
  · rfl
  · obtain ⟨front, rfl⟩ := List.getLast?_eq_some_iff.mp fed
    have last : lines (front ++ ['\n']) = (splitOn '\n' front).map chomp := by
      rw [lines, splitOn_append, splitOn_nil, closeLines_append _ (List.cons_ne_nil _ _)]
      exact List.append_nil _
    rw [last, List.append_assoc, List.singleton_append, lines, splitOn_append,
      closeLines_append _ (splitOn_ne_nil '\n' t)]
    rfl

end CodeAtlas.Text
