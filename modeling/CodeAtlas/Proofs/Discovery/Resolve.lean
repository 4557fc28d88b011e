import CodeAtlas.Proofs.FileTree.Locating
import CodeAtlas.Proofs.Path.Order

/-!
The files that are discovered. Selected and excluded paths are compared by where they lead, so their
order, repetition and spelling do not matter; what is found is increasing, and selecting it again
gives it again. A path that leads nowhere selects nothing, but it excludes the file whose components
it spells.
-/
namespace CodeAtlas.Discovery

open FileTree

def Reaches (files : FileTree) (root : Path) (paths : List Path) (p : Path) : Prop :=
  ∃ q ∈ paths, files.canonical (root.join q) = .ok p

/-- One of the paths, taken from the root, leads nowhere but spells these components. -/
def Strays (files : FileTree) (root : Path) (paths : List Path) (components : List Component) :
    Prop :=
  ∃ q ∈ paths, (∃ fault, files.canonical (root.join q) = .error fault) ∧
    (root.join q).components = components

def Excludes (files : FileTree) (root : Path) (excluded : List Path) (p : Path) : Prop :=
  Reaches files root excluded p ∨ Strays files root excluded p.components

def Compiles (d : Discovery) : Prop :=
  d.selected = [] → (∃ globs, compileAll d.patterns = .ok globs) ∧
    ∃ globs, compileAll d.ignores = .ok globs

variable {files : FileTree} {root p : Path}

/-! Absolute forms -/

theorem absolute_eq_file (q : Path) (file : files.isFileAt p = true) :
    absolute files root q = p ↔ files.canonical (root.join q) = .ok p := by
  unfold absolute
  cases leads : files.canonical (root.join q) with
  | ok canonical => simp
  | error fault =>
    simp only [reduceCtorEq, iff_false]
    rintro rfl
    unfold FileTree.canonical at leads
    cases located : files.locate (root.join q) <;> simp_all [Except.map, isFileAt]

theorem mem_explicit (d : Discovery) :
    p ∈ d.explicit files root ↔
      Reaches files root d.selected p ∧ files.isFileAt p = true := by
  rw [explicit, List.mem_filter, List.mem_map]
  apply and_congr_left
  intro file
  exact exists_congr fun q => and_congr_right fun _ => absolute_eq_file q file

/-- The components of an absolute form are those of a canonical path when both lead to one place, or
when the form leads nowhere and spells them. -/
theorem absolute_components (proper : files.Proper) (q : Path)
    (canonical : files.canonical p = .ok p) :
    (absolute files root q).components = p.components ↔
      files.canonical (root.join q) = .ok p ∨
        (∃ fault, files.canonical (root.join q) = .error fault) ∧
          (root.join q).components = p.components := by
  unfold absolute
  cases leads : files.canonical (root.join q) with
  | ok other =>
    simp only [Except.ok.injEq, reduceCtorEq, exists_false, false_and, or_false]
    constructor
    · exact proper.canonical_components leads canonical
    · rintro rfl
      rfl
  | error fault => simp

theorem excluded_iff (proper : files.Proper) (d : Discovery)
    (canonical : files.canonical p = .ok p) :
    p.components ∈ (d.excluded.map (absolute files root)).map Path.components ↔
      Excludes files root d.excluded p := by
  simp only [List.map_map, List.mem_map, Function.comp_apply,
    absolute_components proper _ canonical, Excludes, Reaches, Strays, and_or_left, exists_or]

theorem mem_withoutExcluded (proper : files.Proper) (d : Discovery) {found : List Path}
    (canonical : ∀ q ∈ found, files.IsCanonicalFile q) :
    p ∈ d.withoutExcluded files root found ↔
      p ∈ found ∧ ¬ Excludes files root d.excluded p := by
  rw [withoutExcluded, List.mem_filter]
  apply and_congr_right
  intro member
  rw [← excluded_iff proper d (canonical p member).canonical]
  simp

/-- Only a path that trails can lead nowhere and spell the components of a file. -/
theorem Strays.trails (proper : files.Proper) (absolute : root.isAbsolute = true)
    (file : files.IsCanonicalFile p) {paths : List Path}
    (strays : Strays files root paths p.components) : ∃ q ∈ paths, (root.join q).Trails := by
  obtain ⟨q, member, ⟨fault, nowhere⟩, spelled⟩ := strays
  refine ⟨q, member, ?_⟩
  by_contra open_end
  obtain ⟨location, located, rfl⟩ := canonical_eq_ok.mp file.canonical
  have leads := proper.locate_spelled (proper.locate_stands located)
    (Path.join_isAbsolute absolute q) spelled open_end
  rw [FileTree.canonical, leads] at nowhere
  cases nowhere

theorem reaches_canonical {paths : List Path} (canonical : ∀ q ∈ paths, files.IsCanonicalFile q) :
    Reaches files root paths p ↔ p ∈ paths := by
  have itself : ∀ q ∈ paths, files.canonical (root.join q) = .ok q := by
    intro q member
    rw [Path.join, if_pos (canonical q member).isAbsolute]
    exact (canonical q member).canonical
  constructor
  · rintro ⟨q, member, leads⟩
    rw [itself q member] at leads
    exact Except.ok.inj leads ▸ member
  · intro member
    exact ⟨p, member, itself p member⟩

/-! Candidates -/

theorem explicit_canonical (proper : files.Proper) (d : Discovery) :
    ∀ q ∈ d.explicit files root, files.IsCanonicalFile q := by
  intro q member
  obtain ⟨⟨s, -, leads⟩, file⟩ := (d.mem_explicit).mp member
  exact proper.isCanonicalFile_of_leads leads file

theorem walk_canonical (proper : files.Proper) (d : Discovery) {location : Location}
    {found : List Path} (walked : d.walk files location = .ok found) :
    ∀ q ∈ found, files.IsCanonicalFile q := by
  unfold walk at walked
  split at walked
  · cases walked
  · split at walked
    · cases walked
    · cases walked
      intro q member
      obtain ⟨place, below, rfl⟩ := List.mem_map.mp member
      have listed := (List.mem_filter.mp below).1
      have file := (List.mem_filter.mp listed).2
      simp only [Bool.and_eq_true] at file
      exact proper.isCanonicalFile_pathOf file.1.1

theorem candidates_canonical (proper : files.Proper) (d : Discovery) {location : Location}
    {found : List Path} (candidates : d.candidates files root location = .ok found) :
    ∀ q ∈ found, files.IsCanonicalFile q := by
  unfold Discovery.candidates at candidates
  split at candidates
  · exact walk_canonical proper d candidates
  · cases candidates
    exact explicit_canonical proper d

theorem candidates_of_compiles (d : Discovery) (files : FileTree) (root : Path)
    (location : Location) (compiles : d.Compiles) :
    ∃ found, d.candidates files root location = .ok found := by
  unfold candidates
  split
  · rename_i nothing
    obtain ⟨⟨patterns, first⟩, ignores, second⟩ := compiles (List.isEmpty_iff.mp nothing)
    simp only [walk, first, second]
    exact ⟨_, rfl⟩
  · exact ⟨_, rfl⟩

/-! What is found -/

structure Finds (d : Discovery) (files : FileTree) (root : Path) (paths : List Path) : Prop where
  resolves : d.resolve files = .ok paths
  increasing : Path.Increasing paths
  canonical : ∀ p ∈ paths, files.IsCanonicalFile p
  kept : ∀ p ∈ paths, ¬ Excludes files root d.excluded p
  selection : d.selected ≠ [] → ∀ p, p ∈ paths ↔
    (Reaches files root d.selected p ∧ files.isFileAt p = true) ∧
      ¬ Excludes files root d.excluded p

theorem finds (proper : files.Proper) (d : Discovery) (accessible : files.canonical d.root = .ok root)
    (compiles : d.Compiles) : ∃ paths, d.Finds files root paths := by
  obtain ⟨location, located, rfl⟩ := canonical_eq_ok.mp accessible
  obtain ⟨found, candidates⟩ := d.candidates_of_compiles files (pathOf location) location compiles
  have canonical := candidates_canonical proper d candidates
  have resolves : d.resolve files =
      .ok (Path.sorted (d.withoutExcluded files (pathOf location) found)) := by
    simp only [resolve, located, candidates]
  have apart : ∀ p ∈ d.withoutExcluded files (pathOf location) found,
      ∀ q ∈ d.withoutExcluded files (pathOf location) found,
        p.components = q.components → p = q := by
    intro p first q second
    exact proper.canonical_components (canonical p (List.mem_filter.mp first).1).canonical
      (canonical q (List.mem_filter.mp second).1).canonical
  have members (p : Path) := (Path.mem_sorted apart p).trans (mem_withoutExcluded proper d canonical)
  refine ⟨_, resolves, Path.sorted_increasing _, ?_, ?_, ?_⟩
  · intro p member
    exact canonical p ((members p).mp member).1
  · intro p member
    exact ((members p).mp member).2
  · intro selects p
    have chosen : found = d.explicit files (pathOf location) := by
      rw [Discovery.candidates, if_neg (by simpa using selects)] at candidates
      exact (Except.ok.inj candidates).symm
    rw [members, chosen, mem_explicit]

/-- Discoveries that find the same paths resolve to the same list. -/
theorem Finds.resolves_as {d other : Discovery} {paths others : List Path}
    (first : d.Finds files root paths) (second : other.Finds files root others)
    (same : ∀ p, p ∈ paths ↔ p ∈ others) : other.resolve files = .ok paths :=
  first.increasing.eq second.increasing same ▸ second.resolves

/-- Selected and excluded paths matter only by where they lead, and by the components of those
excluded that lead nowhere. -/
theorem Finds.of_same_places (proper : files.Proper) {d other : Discovery} {paths : List Path}
    (found : d.Finds files root paths) (accessible : files.canonical other.root = .ok root)
    (selects : d.selected ≠ []) (others : other.selected ≠ [])
    (selected : ∀ p, Reaches files root other.selected p ↔ Reaches files root d.selected p)
    (excluded : ∀ p, files.IsCanonicalFile p →
      (Excludes files root other.excluded p ↔ Excludes files root d.excluded p)) :
    other.resolve files = .ok paths := by
  have compiles : other.Compiles := fun nothing => absurd nothing others
  obtain ⟨again, second⟩ := finds proper other accessible compiles
  apply found.resolves_as second
  intro p
  rw [found.selection selects, second.selection others, selected]
  apply and_congr_right
  rintro ⟨⟨q, -, leads⟩, file⟩
  rw [excluded p (proper.isCanonicalFile_of_leads leads file)]

theorem Finds.again (proper : files.Proper) {d other : Discovery} {paths : List Path}
    (found : d.Finds files root paths) (some_path : paths ≠ [])
    (accessible : files.canonical other.root = .ok root) (selected : other.selected = paths)
    (excluded : other.excluded = d.excluded) : other.resolve files = .ok paths := by
  have selects : other.selected ≠ [] := selected ▸ some_path
  have compiles : other.Compiles := fun nothing => absurd nothing selects
  obtain ⟨again, second⟩ := finds proper other accessible compiles
  apply found.resolves_as second
  intro p
  rw [second.selection selects, selected, excluded, reaches_canonical found.canonical]
  constructor
  · intro member
    exact ⟨⟨member, (found.canonical p member).isFile⟩, found.kept p member⟩
  · rintro ⟨⟨member, -⟩, -⟩
    exact member

section Resolved

variable {d : Discovery} {paths : List Path}

theorem resolve_increasing (resolved : d.resolve files = .ok paths) : Path.Increasing paths := by
  unfold resolve at resolved
  split at resolved
  · cases resolved
  · dsimp only at resolved
    split at resolved
    · cases resolved
    · cases resolved
      exact Path.sorted_increasing _

theorem canonicalRoot_of_resolve (resolved : d.resolve files = .ok paths) :
    ∃ root, d.canonicalRoot files = .ok root := by
  unfold resolve at resolved
  cases located : files.locate d.root with
  | error fault =>
    rw [located] at resolved
    cases resolved
  | ok location =>
    have accessible := FileTree.canonical_eq_ok.mpr ⟨location, located, rfl⟩
    exact ⟨FileTree.pathOf location, by rw [canonicalRoot, accessible]⟩

/-- Selecting one more path can make a difference only for the file it leads to. -/
theorem resolve_selecting (proper : files.Proper) (accessible : d.canonicalRoot files = .ok root)
    (resolved : d.resolve files = .ok paths) (selects : d.selected ≠ []) (chosen : Path) :
    ∃ more, resolve { d with selected := chosen :: d.selected } files = .ok more ∧
      ∀ path, files.canonical (root.join chosen) ≠ .ok path → (path ∈ paths ↔ path ∈ more) := by
  have canonical : files.canonical d.root = .ok root := by
    unfold canonicalRoot at accessible
    split at accessible <;> cases accessible
    assumption
  obtain ⟨own, found⟩ := finds proper d canonical fun nothing => absurd nothing selects
  obtain rfl : own = paths := Except.ok.inj (found.resolves.symm.trans resolved)
  let wider : Discovery := { d with selected := chosen :: d.selected }
  have someSelected : wider.selected ≠ [] := List.cons_ne_nil chosen d.selected
  obtain ⟨more, widely⟩ := finds proper wider canonical fun nothing => absurd nothing someSelected
  refine ⟨more, widely.resolves, ?_⟩
  intro path elsewhere
  have reaches : Reaches files root wider.selected path ↔ Reaches files root d.selected path := by
    simp [Reaches, wider, elsewhere]
  rw [found.selection selects, widely.selection someSelected, reaches]

end Resolved

/-- A discovery in an accessible root, with patterns that compile where they are asked for, finds
canonical paths of files in increasing order, none of them excluded. A selection finds the files it
reaches that are not excluded, in whatever order and spelling it names them; an excluded path that
leads nowhere matters only if it trails. Selecting what was found finds it again. -/
theorem discovery_finds_canonical_files (d : Discovery) (files : FileTree) (root : Path)
    (proper : files.Proper) (accessible : files.canonical d.root = .ok root)
    (compiles : d.Compiles) :
    ∃ paths, d.resolve files = .ok paths ∧ Path.Increasing paths ∧
      (∀ p ∈ paths, files.IsCanonicalFile p ∧ ¬ Reaches files root d.excluded p) ∧
      (∀ p, files.IsCanonicalFile p → Strays files root d.excluded p.components →
        ∃ q ∈ d.excluded, (root.join q).Trails) ∧
      (d.selected ≠ [] →
        (∀ p, p ∈ paths ↔ (Reaches files root d.selected p ∧ files.isFileAt p = true) ∧
          ¬ Reaches files root d.excluded p ∧ ¬ Strays files root d.excluded p.components) ∧
        ∀ other : Discovery, files.canonical other.root = .ok root → other.selected ≠ [] →
          (∀ p, Reaches files root other.selected p ↔ Reaches files root d.selected p) →
          (∀ p, Reaches files root other.excluded p ↔ Reaches files root d.excluded p) →
          (∀ p, files.IsCanonicalFile p → (Strays files root other.excluded p.components ↔
            Strays files root d.excluded p.components)) →
          other.resolve files = .ok paths) ∧
      (paths ≠ [] → ∀ other : Discovery, files.canonical other.root = .ok root →
        other.selected = paths → other.excluded = d.excluded →
        other.resolve files = .ok paths) := by
  obtain ⟨paths, found⟩ := finds proper d accessible compiles
  refine ⟨paths, found.resolves, found.increasing, ?canonical, ?strays, ?selection, ?again⟩
  case canonical =>
    intro p member
    exact ⟨found.canonical p member, fun reached => found.kept p member (.inl reached)⟩
  case strays =>
    obtain ⟨location, -, rfl⟩ := canonical_eq_ok.mp accessible
    intro p file strays
    exact strays.trails proper (pathOf_isAbsolute location) file
  case selection =>
    intro selects
    refine ⟨?_, ?_⟩
    · intro p
      rw [found.selection selects, Excludes, not_or]
    · intro other same_root others selected excluded strayed
      apply found.of_same_places proper same_root selects others selected
      intro p file
      exact or_congr (excluded p) (strayed p file)
  case again =>
    intro some_path other
    exact found.again proper some_path

/-- Two files, selected under several spellings and one of them excluded under another. -/
theorem spellings_of_two_files :
    let files : FileTree :=
      { entries := [(["main.go".toList], .file .empty), (["web".toList], .directory),
          (["web".toList, "app.ts".toList], .file .empty)] }
    let d : Discovery :=
      { root := .ofString "web/.."
        selected := [.ofString "web/app.ts", .ofString "./main.go", .ofString "/web/../main.go",
          .ofString "missing.go"]
        excluded := [.ofString "/web//app.ts"] }
    let root := Path.ofString "/"
    let main := Path.ofString "/main.go"
    files.Proper ∧ files.canonical d.root = .ok root ∧ d.Compiles ∧
      d.resolve files = .ok [main] ∧ files.IsCanonicalFile main ∧
      ({ d with selected := [main] } : Discovery).resolve files = .ok [main] := by
  intro files d root main
  have proper : files.Proper := by decide
  have accessible : files.canonical d.root = .ok root := rfl
  have compiles : d.Compiles := fun nothing => by cases nothing
  have evaluated : d.resolve files = .ok [main] := by decide +kernel
  obtain ⟨paths, resolves, -, canonical, -, -, again⟩ :=
    discovery_finds_canonical_files d files root proper accessible compiles
  have same : paths = [main] := Except.ok.inj (resolves.symm.trans evaluated)
  subst same
  exact ⟨proper, accessible, compiles, evaluated, (canonical main (List.mem_singleton_self main)).1,
    again (List.cons_ne_nil main []) { d with selected := [main] } accessible rfl rfl⟩

/-- A file's path with a dot behind it leads nowhere, so it cannot select the file; yet it excludes it. -/
theorem dot_behind_file_excludes_it :
    let files : FileTree := { entries := [(["main.go".toList], .file .empty)] }
    let root := Path.ofString "/"
    let main := Path.ofString "main.go"
    let dotted := Path.ofString "main.go/."
    files.Proper ∧ files.canonical root = .ok root ∧
      Reaches files root [main] (.ofString "/main.go") ∧
      files.isFileAt (.ofString "/main.go") = true ∧ (∀ p, ¬ Reaches files root [dotted] p) ∧
      Discovery.resolve { root, selected := [main], excluded := [dotted] } files = .ok [] ∧
      Discovery.resolve { root, selected := [dotted] } files = .ok [] := by
  intro files root main dotted
  have nowhere : files.canonical (root.join dotted) = .error .notDirectory := rfl
  have reached : files.canonical (root.join main) = .ok (.ofString "/main.go") := rfl
  refine ⟨by decide, rfl, ⟨main, List.mem_singleton_self main, reached⟩, by decide +kernel, ?_,
    by decide +kernel, by decide +kernel⟩
  rintro p ⟨q, member, leads⟩
  rw [List.mem_singleton.mp member, nowhere] at leads
  cases leads

end CodeAtlas.Discovery
