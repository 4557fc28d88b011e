import CodeAtlas.FileTree
import CodeAtlas.Proofs.Text.Split

/-!
Files that are written. A file that was written is read back as it is, and a file that stood
elsewhere still reads as before.
-/
namespace CodeAtlas

def Path.IsName (piece : Line) : Prop := piece ≠ [] ∧ piece ≠ ['.'] ∧ piece ≠ ['.', '.']

namespace FileTree

/-! Entries -/

theorem find_put_go (location key : Location) (entry : Entry)
    (entries : List (Location × Entry)) :
    ((put.go location entry entries).find? fun e => e.1 == key) =
      if location = key then some (location, entry) else entries.find? fun e => e.1 == key := by
  induction entries with
  | nil => by_cases same : location = key <;> simp [put.go, same]
  | cons e rest ih =>
    by_cases here : e.1 = location
    · by_cases same : location = key <;> simp [put.go, here, same]
    · by_cases same : location = key
      · subst same
        simp [put.go, here, ih]
      · simp only [put.go, here, ↓reduceIte, List.find?_cons, ih, same]

theorem lookup_put (t : FileTree) {location : Location} (below_root : location ≠ []) (entry : Entry)
    (key : Location) :
    (t.put location entry).lookup? key = if location = key then some entry else t.lookup? key := by
  by_cases root : key = []
  · subst root
    simp [lookup?, below_root]
  · simp only [lookup?, root, put, ↓reduceIte, find_put_go]
    by_cases same : location = key <;> simp [same]

section Put

variable (t : FileTree) {location : Location} (content : ByteArray)
  (no_directory : t.isDirectory location = false)

include no_directory

theorem below_root : location ≠ [] := by
  rintro rfl
  cases no_directory

theorem isDirectory_put (key : Location) :
    (t.put location (.file content)).isDirectory key = t.isDirectory key := by
  have below := t.below_root no_directory
  by_cases same : location = key
  · subst same
    simp only [isDirectory, t.lookup_put below, ↓reduceIte] at no_directory ⊢
    exact no_directory.symm
  · simp [isDirectory, t.lookup_put below, same]

theorem isSome_put (key : Location) (present : (t.lookup? key).isSome) :
    ((t.put location (.file content)).lookup? key).isSome := by
  rw [t.lookup_put (t.below_root no_directory)]
  split
  · rfl
  · exact present

theorem enter_put (start next : Location) (piece : Line)
    (entered : t.enter start piece = .ok next) :
    (t.put location (.file content)).enter start piece = .ok next := by
  unfold enter at entered ⊢
  rw [t.isDirectory_put content no_directory]
  split at entered
  · rename_i inside
    rw [if_pos inside]
    split at entered
    · rename_i stays
      rw [if_pos stays]
      exact entered
    · rename_i moves
      rw [if_neg moves]
      split at entered
      · rename_i up
        rw [if_pos up]
        exact entered
      · rename_i down
        rw [if_neg down]
        split at entered
        · rename_i present
          rw [if_pos (t.isSome_put content no_directory _ present)]
          exact entered
        · cases entered
  · cases entered

theorem follow_put (start last : Location) (pieces : List Line)
    (followed : t.follow start pieces = .ok last) :
    (t.put location (.file content)).follow start pieces = .ok last := by
  induction pieces generalizing start with
  | nil => exact followed
  | cons piece rest ih =>
    unfold follow at followed ⊢
    cases entered : t.enter start piece with
    | error fault => simp [entered] at followed
    | ok next =>
      rw [entered] at followed
      rw [t.enter_put content no_directory start next piece entered]
      exact ih next followed

end Put

theorem follow_append (t : FileTree) (start middle : Location) (before rest : List Line)
    (followed : t.follow start before = .ok middle) :
    t.follow start (before ++ rest) = t.follow middle rest := by
  induction before generalizing start with
  | nil =>
    cases followed
    rfl
  | cons piece others ih =>
    unfold follow at followed
    rw [List.cons_append, follow]
    cases entered : t.enter start piece with
    | error fault => simp [entered] at followed
    | ok next =>
      rw [entered] at followed
      exact ih next followed

/-! Writing and reading -/

structure Destination (t : FileTree) (p : Path) where
  before : List Line
  name : Line
  directory : Location
  pieces : Text.splitOn '/' p.text = before ++ [name]
  names : Path.IsName name
  found : t.follow (t.origin p) before = .ok directory
  inside : t.isDirectory directory = true
  free : t.isDirectory (directory ++ [name]) = false

def Destination.location {t : FileTree} {p : Path} (d : Destination t p) : Location :=
  d.directory ++ [d.name]

theorem pieces_reverse {p : Path} {last : Line} {before : List Line}
    (pieces : (Text.splitOn '/' p.text).reverse.dropWhile List.isEmpty = last :: before)
    (open_end : p.text.getLast? ≠ some '/') :
    Text.splitOn '/' p.text = before.reverse ++ [last] := by
  have whole := List.reverse_reverse (Text.splitOn '/' p.text)
  cases back : (Text.splitOn '/' p.text).reverse with
  | nil => exact absurd (List.reverse_eq_nil_iff.mp back) (Text.splitOn_ne_nil '/' p.text)
  | cons final others =>
    rw [back] at pieces whole
    by_cases empty : final = []
    · subst empty
      -- Dropping the empty last piece leaves some, so the text ends with a slash after all.
      have more : others.reverse ≠ [] := by
        intro none_left
        rw [List.reverse_eq_nil_iff.mp none_left] at pieces
        cases pieces
      exact absurd (Text.getLast_of_splitOn (by rw [← whole, List.reverse_cons]) more) open_end
    · rw [List.dropWhile_cons_of_neg (by simpa using empty)] at pieces
      cases pieces
      rw [← whole, List.reverse_cons]

theorem destination_of_write {t after : FileTree} {p : Path} {content : ByteArray}
    (write : t.write p content = .ok after) :
    ∃ d : Destination t p, after = t.put d.location (.file content) := by
  unfold FileTree.write at write
  cases slot : t.slot p .isDirectory with
  | error fault => simp [slot] at write
  | ok location =>
    simp only [slot] at write
    split at write
    · cases write
    · rename_i free
      simp only [not_or, Bool.not_eq_true] at free
      unfold FileTree.slot at slot
      split at slot
      · cases slot
      · rename_i last before pieces
        split at slot
        · cases slot
        · rename_i directory found
          split at slot
          · rename_i inside
            split at slot
            · cases slot
            · rename_i named
              cases slot
              cases write
              have some_last : last ≠ [] := by
                rintro rfl
                have holds := List.head?_dropWhile_not List.isEmpty
                  (Text.splitOn '/' p.text).reverse
                rw [pieces] at holds
                simp at holds
              exact ⟨⟨before.reverse, last, directory, pieces_reverse pieces free.1,
                ⟨some_last, fun dot => named (.inl dot), fun dots => named (.inr dots)⟩, found,
                inside, free.2⟩, rfl⟩
          · cases slot

namespace Destination

variable {t : FileTree} {p : Path} (d : Destination t p) (content : ByteArray)

theorem location_free : t.isDirectory d.location = false := d.free

include d in
theorem text_ne_nil : p.text ≠ [] := by
  intro empty
  have pieces := d.pieces
  rw [empty, Text.splitOn_nil] at pieces
  have last := congrArg List.getLast? pieces
  simp only [List.getLast?_singleton, List.getLast?_append, Option.some_or] at last
  exact d.names.1 (Option.some.inj last).symm

theorem lookup_written : (t.put d.location (.file content)).lookup? d.location =
    some (.file content) := by
  rw [t.lookup_put (t.below_root d.location_free), if_pos rfl]

theorem locate_written :
    (t.put d.location (.file content)).locate p = .ok d.location := by
  have reached : (t.put d.location (.file content)).follow (t.origin p) d.before =
      .ok d.directory :=
    t.follow_put content d.location_free _ _ _ d.found
  have inside : (t.put d.location (.file content)).isDirectory d.directory = true := by
    rw [t.isDirectory_put content d.location_free]
    exact d.inside
  have origin : (t.put d.location (.file content)).origin p = t.origin p := rfl
  have present := d.lookup_written content
  obtain ⟨some_name, no_dot, no_dots⟩ := d.names
  rw [locate, if_neg d.text_ne_nil, origin, d.pieces, follow_append _ _ _ _ _ reached]
  simp only [location] at present inside ⊢
  simp [follow, enter, inside, some_name, no_dot, no_dots, present]

theorem read_written : (t.put d.location (.file content)).read p = .ok content := by
  simp only [read, d.locate_written content, d.lookup_written content]

theorem read_other {q : Path} {place : Location} {old : ByteArray}
    (located : t.locate q = .ok place) (reads : t.read q = .ok old)
    (apart : d.location ≠ place) : (t.put d.location (.file content)).read q = .ok old := by
  have still : (t.put d.location (.file content)).locate q = .ok place := by
    unfold locate at located ⊢
    split at located
    · cases located
    · rename_i text
      rw [if_neg text]
      exact t.follow_put content d.location_free _ _ _ located
  have same : (t.put d.location (.file content)).lookup? place = t.lookup? place := by
    rw [t.lookup_put (t.below_root d.location_free), if_neg apart]
  simp only [read, located] at reads
  simp only [read, still, same]
  exact reads

end Destination

end FileTree
end CodeAtlas
