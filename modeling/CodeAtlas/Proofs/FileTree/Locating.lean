import CodeAtlas.Proofs.Path.FileName
import Mathlib.Data.List.Basic
import Mathlib.Data.List.Induction

/-!
Where paths lead. In a tree whose entries have proper names and lie in directories, every location a
path leads to has an entry, and the path of that location leads there again.
-/
namespace CodeAtlas

namespace Path

theorem components_segmentsFrom (start : Nat) (pieces : List Line) :
    (segmentsFrom start pieces).map (·.component) = pieces.filterMap classify := by
  induction pieces generalizing start with
  | nil => rfl
  | cons piece rest ih =>
    rw [segmentsFrom, List.filterMap_cons]
    cases classify piece with
    | none => exact ih (start + piece.length + 1)
    | some component => exact congrArg (component :: ·) (ih (start + piece.length + 1))

theorem components_of_absolute {p : Path} {rest : List Line} (absolute : p.isAbsolute = true)
    (pieces : Text.splitOn '/' p.text = [] :: rest) :
    p.components = .root :: rest.filterMap classify := by
  unfold components segments
  rw [pieces]
  simp only [absolute, if_true, List.map_cons, components_segmentsFrom]

theorem classify_name {name : Line} (names : IsName name) : classify name = some (.name name) := by
  obtain ⟨some_name, no_dot, no_dots⟩ := names
  simp [classify, some_name, no_dot, no_dots]

theorem join_isAbsolute {p : Path} (absolute : p.isAbsolute = true) (q : Path) :
    (p.join q).isAbsolute = true := by
  unfold join
  split
  · assumption
  · obtain ⟨text⟩ := p
    cases text with
    | nil => cases absolute
    | cons c rest => split <;> exact absolute

theorem blank_of_classify {piece : Line} (blank : classify piece = none) :
    piece = [] ∨ piece = ['.'] := by
  unfold classify at blank
  split at blank
  · rename_i nothing
    simpa using nothing
  · split at blank <;> cases blank

theorem name_of_classify {piece name : Line} (named : classify piece = some (.name name)) :
    piece = name := by
  unfold classify at named
  split at named
  · cases named
  · split at named
    · cases named
    · exact Component.name.inj (Option.some.inj named)

/-- The last piece of the path is empty or a dot: nothing comes after the last slash, or `.` does. -/
def Trails (p : Path) : Prop :=
  ∃ before piece, Text.splitOn '/' p.text = before ++ [piece] ∧ classify piece = none

end Path

namespace FileTree

structure Names (name : Line) : Prop where
  isName : Path.IsName name
  no_slash : '/' ∉ name

structure Proper (t : FileTree) : Prop where
  named : ∀ e ∈ t.entries, ∀ name ∈ e.1, Names name
  inside : ∀ e ∈ t.entries, t.isDirectory e.1.dropLast = true

instance (name : Line) : Decidable (Names name) :=
  decidable_of_iff ((name ≠ [] ∧ name ≠ ['.'] ∧ name ≠ ['.', '.']) ∧ '/' ∉ name)
    ⟨fun h => ⟨h.1, h.2⟩, fun h => ⟨h.1, h.2⟩⟩

instance (t : FileTree) : Decidable t.Proper :=
  decidable_of_iff ((∀ e ∈ t.entries, ∀ name ∈ e.1, Names name) ∧
    ∀ e ∈ t.entries, t.isDirectory e.1.dropLast = true) ⟨fun h => ⟨h.1, h.2⟩, fun h => ⟨h.1, h.2⟩⟩

theorem filterMap_classify {location : Location} (names : ∀ name ∈ location, Names name) :
    location.filterMap Path.classify = location.map .name :=
  List.filterMap_eq_map_iff_forall_eq_some.mpr fun name member =>
    Path.classify_name (names name member).isName

def Stands (t : FileTree) (location : Location) : Prop := (t.lookup? location).isSome

theorem canonical_eq_ok {t : FileTree} {p canonical : Path} :
    t.canonical p = .ok canonical ↔
      ∃ location, t.locate p = .ok location ∧ pathOf location = canonical := by
  unfold FileTree.canonical
  cases t.locate p <;> simp [Except.map]

/-! Entries of a proper tree -/

theorem isDirectory_root (t : FileTree) : t.isDirectory [] = true := rfl

theorem stands_of_directory {t : FileTree} {location : Location}
    (directory : t.isDirectory location = true) : t.Stands location := by
  unfold isDirectory at directory
  split at directory
  · rename_i found
    exact Option.isSome_of_eq_some found
  · cases directory

theorem stands_of_file {t : FileTree} {location : Location}
    (file : t.isFile location = true) : t.Stands location := by
  unfold isFile at file
  split at file
  · rename_i found
    exact Option.isSome_of_eq_some found
  · cases file

theorem entry_of_stands {t : FileTree} {location : Location} (stands : t.Stands location)
    (below_root : location ≠ []) : ∃ e ∈ t.entries, e.1 = location := by
  unfold Stands lookup? at stands
  rw [if_neg below_root, Option.isSome_map, List.find?_isSome] at stands
  obtain ⟨e, member, same⟩ := stands
  exact ⟨e, member, beq_iff_eq.mp same⟩

namespace Proper

variable {t : FileTree} (proper : t.Proper)

include proper

theorem names {location : Location} (stands : t.Stands location) :
    ∀ name ∈ location, Names name := by
  intro name member
  obtain ⟨e, entry, rfl⟩ := entry_of_stands stands (List.ne_nil_of_mem member)
  exact proper.named e entry name member

theorem above {location : Location} (stands : t.Stands location) :
    t.isDirectory location.dropLast = true := by
  cases location with
  | nil => exact t.isDirectory_root
  | cons name rest =>
    obtain ⟨e, entry, same⟩ := entry_of_stands stands (List.cons_ne_nil name rest)
    exact same ▸ proper.inside e entry

/-! Following pieces -/

theorem enter_stands {location next : Location} {piece : Line}
    (entered : t.enter location piece = .ok next) : t.Stands next := by
  unfold enter at entered
  split at entered
  · rename_i directory
    have here := stands_of_directory directory
    split at entered
    · cases entered
      exact here
    · split at entered
      · cases entered
        exact stands_of_directory (proper.above here)
      · split at entered
        · rename_i found
          cases entered
          exact found
        · cases entered
  · cases entered

theorem follow_stands {start last : Location} {pieces : List Line} (some_piece : pieces ≠ [])
    (followed : t.follow start pieces = .ok last) : t.Stands last := by
  induction pieces generalizing start with
  | nil => exact absurd rfl some_piece
  | cons piece rest ih =>
    unfold follow at followed
    cases entered : t.enter start piece with
    | error fault => simp [entered] at followed
    | ok next =>
      rw [entered] at followed
      cases rest with
      | nil =>
        cases followed
        exact proper.enter_stands entered
      | cons later others => exact ih (List.cons_ne_nil later others) followed

theorem locate_stands {p : Path} {location : Location}
    (located : t.locate p = .ok location) : t.Stands location := by
  unfold locate at located
  split at located
  · cases located
  · exact proper.follow_stands (Text.splitOn_ne_nil '/' p.text) located

/-! The path of a location -/

/-- Pieces that spell the names of an entry lead to it, unless empty pieces or dots follow the name of
a file. -/
theorem follow_spelled {location : Location} (stands : t.Stands location) {pieces : List Line}
    (spelled : pieces.filterMap Path.classify = location.map .name)
    (ends : t.isDirectory location = true ∨
      ∃ before name, pieces = before ++ [name] ∧ Path.classify name ≠ none) :
    t.follow [] pieces = .ok location := by
  -- From the last piece back: those before it lead to a directory, whatever the last one is.
  induction pieces using List.reverseRecOn generalizing location with
  | nil =>
    obtain rfl := List.map_eq_nil_iff.mp spelled.symm
    rfl
  | append_singleton before piece ih =>
    rw [List.filterMap_append] at spelled
    cases component : Path.classify piece with
    | none =>
      have directory : t.isDirectory location = true := by
        apply ends.resolve_right
        rintro ⟨others, name, same, named⟩
        exact named (List.singleton_inj.mp (List.append_inj' same rfl).2 ▸ component)
      rw [List.filterMap_cons_none component, List.filterMap_nil, List.append_nil] at spelled
      rw [t.follow_append [] location before [piece] (ih stands spelled (.inl directory))]
      simp [follow, enter, directory, Path.blank_of_classify component]
    | some c =>
      rw [List.filterMap_cons_some component, List.filterMap_nil] at spelled
      obtain ⟨above, last, rfl, spelled_above, spelled_last⟩ :=
        List.map_eq_append_iff.mp spelled.symm
      obtain ⟨name, rest, rfl, named, rest_nil⟩ := List.map_eq_cons_iff.mp spelled_last
      obtain rfl := List.map_eq_nil_iff.mp rest_nil
      subst named
      obtain rfl := Path.name_of_classify component
      have directory : t.isDirectory above = true := by
        simpa using proper.above stands
      obtain ⟨some_name, no_dot, no_dots⟩ := (proper.names stands piece (by simp)).isName
      rw [t.follow_append [] above before [piece]
        (ih (stands_of_directory directory) spelled_above.symm (.inl directory))]
      unfold Stands at stands
      simp [follow, enter, directory, some_name, no_dot, no_dots, stands]

theorem follow_names {location : Location} (stands : t.Stands location) :
    t.follow [] location = .ok location := by
  have names := proper.names stands
  apply proper.follow_spelled stands (filterMap_classify names)
  cases location using List.reverseRecOn with
  | nil => exact .inl t.isDirectory_root
  | append_singleton above name =>
    refine .inr ⟨above, name, rfl, ?_⟩
    rw [Path.classify_name (names name (by simp)).isName]
    exact Option.some_ne_none _

end Proper

theorem splitOn_join {location : Location} (names : ∀ name ∈ location, Names name)
    (below_root : location ≠ []) : Text.splitOn '/' (Text.join ['/'] location) = location := by
  induction location with
  | nil => exact absurd rfl below_root
  | cons name rest ih =>
    have alone := Text.splitOn_of_not_mem (names name List.mem_cons_self).no_slash
    cases rest with
    | nil => exact alone
    | cons next others =>
      have later := ih (fun other member => names other (List.mem_cons_of_mem name member))
        (List.cons_ne_nil next others)
      rw [Text.join, List.append_assoc, List.singleton_append, Text.splitOn_append, alone, later,
        List.singleton_append]

theorem splitOn_pathOf {location : Location} (names : ∀ name ∈ location, Names name) :
    Text.splitOn '/' (pathOf location).text =
      [] :: if location = [] then [[]] else location := by
  have cut : Text.splitOn '/' (pathOf location).text =
      [] :: Text.splitOn '/' (Text.join ['/'] location) :=
    Text.splitOn_append '/' [] (Text.join ['/'] location)
  rw [cut]
  split
  · rename_i root
    rw [root]
    rfl
  · rename_i below_root
    rw [splitOn_join names below_root]

theorem pathOf_isAbsolute (location : Location) : (pathOf location).isAbsolute = true := rfl

/-- The components of a location's path are the root and its names. -/
theorem components_pathOf {location : Location} (names : ∀ name ∈ location, Names name) :
    (pathOf location).components = .root :: location.map .name := by
  rw [Path.components_of_absolute (pathOf_isAbsolute location) (splitOn_pathOf names)]
  split
  · rename_i root
    rw [root]
    rfl
  · rw [filterMap_classify names]

theorem pathOf_components_inj {location other : Location} (names : ∀ name ∈ location, Names name)
    (others : ∀ name ∈ other, Names name) :
    (pathOf location).components = (pathOf other).components ↔ location = other := by
  have injective : Function.Injective Component.name := fun _ _ same => Component.name.inj same
  simp only [components_pathOf names, components_pathOf others, List.cons.injEq, true_and,
    (List.map_injective_iff.mpr injective).eq_iff]

structure IsCanonicalFile (t : FileTree) (p : Path) : Prop where
  isAbsolute : p.isAbsolute = true
  canonical : t.canonical p = .ok p
  isFile : t.isFileAt p = true

namespace Proper

variable {t : FileTree} (proper : t.Proper)

include proper

theorem locate_pathOf {location : Location} (stands : t.Stands location) :
    t.locate (pathOf location) = .ok location := by
  have some_text : (pathOf location).text ≠ [] := List.cons_ne_nil _ _
  have origin : t.origin (pathOf location) = [] := rfl
  rw [locate, if_neg some_text, origin, splitOn_pathOf (proper.names stands)]
  split
  · rename_i root
    rw [root]
    rfl
  · exact proper.follow_names stands

/-- An absolute path that spells the components of an entry leads to it as well, unless it trails. -/
theorem locate_spelled {p : Path} {location : Location} (stands : t.Stands location)
    (absolute : p.isAbsolute = true) (spelled : p.components = (pathOf location).components)
    (open_end : ¬ p.Trails) : t.locate p = .ok location := by
  obtain ⟨rest, text⟩ : ∃ rest, p.text = '/' :: rest := by
    apply List.head?_eq_some_iff.mp
    simpa [Path.isAbsolute] using absolute
  have pieces : Text.splitOn '/' p.text = [] :: Text.splitOn '/' rest := by
    rw [text]
    exact Text.splitOn_append '/' [] rest
  rw [Path.components_of_absolute absolute pieces, components_pathOf (proper.names stands)] at spelled
  have origin : t.origin p = [] := by simp [FileTree.origin, absolute]
  rw [locate, if_neg (by simp [text]), origin]
  apply proper.follow_spelled stands
  · rw [pieces, List.filterMap_cons_none rfl]
    exact (List.cons.inj spelled).2
  · right
    obtain ⟨before, piece, whole⟩ :=
      (List.eq_nil_or_concat' _).resolve_left (Text.splitOn_ne_nil '/' p.text)
    exact ⟨before, piece, whole, fun blank => open_end ⟨before, piece, whole, blank⟩⟩

theorem canonical_pathOf {location : Location} (stands : t.Stands location) :
    t.canonical (pathOf location) = .ok (pathOf location) :=
  canonical_eq_ok.mpr ⟨location, proper.locate_pathOf stands, rfl⟩

theorem canonical_idempotent {p canonical : Path} (leads : t.canonical p = .ok canonical) :
    t.canonical canonical = .ok canonical := by
  obtain ⟨location, located, rfl⟩ := canonical_eq_ok.mp leads
  exact proper.canonical_pathOf (proper.locate_stands located)

theorem isCanonicalFile_pathOf {location : Location} (file : t.isFile location = true) :
    t.IsCanonicalFile (pathOf location) := by
  have stands := stands_of_file file
  refine ⟨pathOf_isAbsolute location, proper.canonical_pathOf stands, ?_⟩
  rw [isFileAt, proper.locate_pathOf stands]
  exact file

theorem isCanonicalFile_of_leads {p canonical : Path} (leads : t.canonical p = .ok canonical)
    (file : t.isFileAt canonical = true) : t.IsCanonicalFile canonical := by
  obtain ⟨location, located, rfl⟩ := canonical_eq_ok.mp leads
  rw [isFileAt, proper.locate_pathOf (proper.locate_stands located)] at file
  exact proper.isCanonicalFile_pathOf file

/-- Canonical paths with the same components are the same. -/
theorem canonical_components {p q canonical other : Path} (leads : t.canonical p = .ok canonical)
    (others : t.canonical q = .ok other) (same : canonical.components = other.components) :
    canonical = other := by
  obtain ⟨location, located, rfl⟩ := canonical_eq_ok.mp leads
  obtain ⟨place, found, rfl⟩ := canonical_eq_ok.mp others
  have first := proper.names (proper.locate_stands located)
  have second := proper.names (proper.locate_stands found)
  rw [(pathOf_components_inj first second).mp same]

end Proper

end FileTree
end CodeAtlas
