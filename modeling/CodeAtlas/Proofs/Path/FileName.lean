import CodeAtlas.Index.Entry
import CodeAtlas.Proofs.FileTree.Writing
import Mathlib.Data.List.TakeDrop
import Mathlib.Data.List.TakeWhile

/-!
File names of paths. The last piece of a path names its file, unless it is empty or made of dots; a
path with another file name has that name as its last piece. The table of an index therefore never
has the name of the index.
-/
namespace CodeAtlas

namespace Path

/-! The last piece names the file -/

theorem segmentsFrom_name (start : Nat) (before : List Line) (name : Line) (names : IsName name) :
    ∃ earlier first last,
      segmentsFrom start (before ++ [name]) = earlier ++ [⟨.name name, first, last⟩] := by
  induction before generalizing start with
  | nil =>
    obtain ⟨some_name, no_dot, no_dots⟩ := names
    refine ⟨[], start, start + name.length, ?_⟩
    simp [segmentsFrom, classify, some_name, no_dot, no_dots]
  | cons piece rest ih =>
    obtain ⟨earlier, first, last, later⟩ := ih (start + piece.length + 1)
    rw [List.cons_append, segmentsFrom, later]
    cases classify piece with
    | none => exact ⟨earlier, first, last, rfl⟩
    | some component => exact ⟨_ :: earlier, first, last, rfl⟩

theorem segments_name {p : Path} {before : List Line} {name : Line}
    (pieces : Text.splitOn '/' p.text = before ++ [name]) (names : IsName name) :
    ∃ earlier first last, p.segments = earlier ++ [⟨.name name, first, last⟩] := by
  unfold segments
  rw [pieces]
  split
  · rename_i rest here
    cases before with
    | nil =>
      cases here
      exact absurd rfl names.2.1
    | cons piece others =>
      cases here
      obtain ⟨earlier, first, last, later⟩ := segmentsFrom_name 2 others name names
      exact ⟨_ :: earlier, first, last, congrArg (_ :: ·) later⟩
  · rename_i rest empty
    cases before with
    | nil =>
      cases empty
      exact absurd rfl names.1
    | cons piece others =>
      cases empty
      have absolute : p.isAbsolute = true := by
        have whole := Text.intercalate_splitOn '/' p.text
        cases others <;> rw [pieces] at whole <;> simp [isAbsolute, ← whole]
      rw [if_pos absolute]
      obtain ⟨earlier, first, last, later⟩ := segmentsFrom_name 1 others name names
      exact ⟨_ :: earlier, first, last, congrArg (_ :: ·) later⟩
  · exact segmentsFrom_name 0 before name names

variable {p : Path} {before : List Line} {name : Line}

theorem fileName_of_pieces (pieces : Text.splitOn '/' p.text = before ++ [name])
    (names : IsName name) : p.fileName? = some name := by
  obtain ⟨earlier, first, last, segments⟩ := segments_name pieces names
  simp [fileName?, segments]

theorem parent_of_pieces (pieces : Text.splitOn '/' p.text = before ++ [name])
    (names : IsName name) : ∃ parent, p.parent? = some parent := by
  obtain ⟨earlier, first, last, segments⟩ := segments_name pieces names
  simp [parent?, segments]

/-- The file name is read off the components. -/
theorem fileName_components (p : Path) :
    p.fileName? =
      match p.components.getLast? with
      | some (.name text) => some text
      | _ => none := by
  simp only [fileName?, components, List.getLast?_map]
  cases p.segments.getLast? with
  | none => rfl
  | some segment =>
    obtain ⟨component, _, _⟩ := segment
    cases component <;> rfl

/-! Other file names -/

theorem splitOn_join (p : Path) {name : Line} (some_name : name ≠ []) (no_slash : '/' ∉ name) :
    ∃ before, Text.splitOn '/' (p.join ⟨name⟩).text = before ++ [name] ∧
      (before = Text.splitOn '/' p.text ∨ Text.splitOn '/' p.text = before ++ [[]]) ∧
      (before = [] → p.text = []) := by
  have relative : (⟨name⟩ : Path).isAbsolute = false := by
    cases name with
    | nil => exact absurd rfl some_name
    | cons c rest =>
      have differs : c ≠ '/' := fun same => no_slash (by simp [same])
      simp [isAbsolute, differs]
  have alone := Text.splitOn_of_not_mem no_slash
  unfold join
  rw [if_neg (by simp [relative])]
  by_cases empty : p.text = []
  · exact ⟨[], by simp [empty, alone], by simp [empty, Text.splitOn_nil], fun _ => empty⟩
  · by_cases slash : p.text.getLast? = some '/'
    · obtain ⟨shorter, ends⟩ := List.getLast?_eq_some_iff.mp slash
      refine ⟨Text.splitOn '/' shorter, ?_, .inr ?_,
        fun none_before => absurd none_before (Text.splitOn_ne_nil '/' shorter)⟩
      · rw [if_pos (by simp [slash]), ends, List.append_assoc, List.singleton_append,
          Text.splitOn_append, alone]
      · rw [ends, Text.splitOn_append, Text.splitOn_nil]
    · refine ⟨Text.splitOn '/' p.text, ?_, .inl rfl,
        fun none_before => absurd none_before (Text.splitOn_ne_nil '/' p.text)⟩
      rw [if_neg (by simp [empty, slash]), Text.splitOn_append, alone]

/-! Stems -/

theorem splitAtDot_cases (name : Line) :
    (splitAtDot name).1 = name ∨
      ∃ extension, '.' ∉ extension ∧ name = (splitAtDot name).1 ++ '.' :: extension := by
  have parts : name.reverse = name.reverse.takeWhile (· != '.') ++
      name.reverse.dropWhile (· != '.') := List.takeWhile_append_dropWhile.symm
  unfold splitAtDot
  rw [List.span_eq_takeWhile_dropWhile]
  split
  · exact .inl rfl
  · exact .inl rfl
  · rename_i extension dot stem _ cut
    right
    obtain ⟨taken, dropped⟩ := Prod.mk.inj cut
    refine ⟨extension.reverse, ?_, ?_⟩
    · rw [← taken]
      intro member
      have satisfied := List.mem_takeWhile_imp (List.mem_reverse.mp member)
      simp at satisfied
    · have is_dot : dot = '.' := by
        have holds := List.head?_dropWhile_not (· != '.') name.reverse
        rw [dropped] at holds
        simpa using holds
      rw [taken, dropped] at parts
      have back := congrArg List.reverse parts
      simpa [is_dot] using back

def tableName (name : Line) : Line := (splitAtDot name).1 ++ ".entries.json".toList

theorem tableName_ne (name : Line) : tableName name ≠ name := by
  intro same
  unfold tableName at same
  rcases splitAtDot_cases name with whole | ⟨extension, no_dot, parts⟩
  · rw [whole] at same
    have length := congrArg List.length same
    simp at length
  · -- The extension of a name has no dot, but what a table's name ends with has two.
    have ends : (splitAtDot name).1 ++ ".entries.json".toList =
        (splitAtDot name).1 ++ '.' :: extension := same.trans parts
    have extensions := List.append_cancel_left ends
    apply no_dot
    rw [← (List.cons.inj extensions).2]
    decide

theorem tableName_ne_nil (name : Line) : tableName name ≠ [] := by
  simp [tableName]

theorem tableName_no_slash {name : Line} (no_slash : '/' ∉ name) : '/' ∉ tableName name := by
  unfold tableName
  intro member
  rcases List.mem_append.mp member with stem | ending
  · rcases splitAtDot_cases name with whole | ⟨extension, -, parts⟩
    · rw [whole] at stem
      exact no_slash stem
    · rw [parts] at no_slash
      exact no_slash (List.mem_append_left _ stem)
  · revert ending
    decide

theorem tableName_isName (name : Line) : IsName (tableName name) := by
  have long : 13 ≤ (tableName name).length := by simp [tableName]
  refine ⟨tableName_ne_nil name, ?_, ?_⟩ <;> intro dots <;> rw [dots] at long <;>
    simp at long

theorem splitOn_entriesPath (pieces : Text.splitOn '/' p.text = before ++ [name])
    (names : IsName name) :
    ∃ others, Text.splitOn '/' (entriesPath p).text = others ++ [tableName name] := by
  have named := fileName_of_pieces pieces names
  obtain ⟨parent, above⟩ := parent_of_pieces pieces names
  have no_slash : '/' ∉ name :=
    Text.not_mem_of_splitOn '/' p.text name (by simp [pieces])
  have table : entriesPath p = parent.join ⟨tableName name⟩ := by
    simp [entriesPath, withFileName, fileStem?, named, above, tableName]
  obtain ⟨others, last, -⟩ :=
    parent.splitOn_join (tableName_ne_nil name) (tableName_no_slash no_slash)
  exact ⟨others, table ▸ last⟩

theorem entriesPath_components (pieces : Text.splitOn '/' p.text = before ++ [name])
    (names : IsName name) : (entriesPath p).components ≠ p.components := by
  intro same
  obtain ⟨others, table⟩ := splitOn_entriesPath pieces names
  have named := fileName_of_pieces pieces names
  have tabled := fileName_of_pieces table (tableName_isName name)
  rw [fileName_components] at named tabled
  rw [same, named] at tabled
  exact tableName_ne name (Option.some.inj tabled).symm

end Path
end CodeAtlas
