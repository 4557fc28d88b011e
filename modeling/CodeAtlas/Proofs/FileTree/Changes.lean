import CodeAtlas.Proofs.Path.Parent

/-!
What making directories and writing files changes. Directories are made only where nothing stood, and
a file is written only into the directory that the path before its name leads to. Paths that led to a
directory still lead there.
-/
namespace CodeAtlas

namespace Path

variable {p q : Path}

def pieceOf : Component → Line
  | .name text => text
  | .up => ['.', '.']
  | .root | .here => []

/-- The components that pieces stand for, without what a path begins with. -/
def spelled (p : Path) : List Component := p.components.filter fun c => c ≠ .root ∧ c ≠ .here

theorem classify_spelled {piece : Line} {c : Component} (component : classify piece = some c) :
    (c ≠ .root ∧ c ≠ .here) ∧ pieceOf c = piece ∧ ¬ (piece = [] ∨ piece = ['.']) := by
  unfold classify at component
  split at component
  · cases component
  · rename_i some_piece
    have no_blank : ¬ (piece = [] ∨ piece = ['.']) := by simpa using some_piece
    split at component
    · rename_i dots
      cases component
      exact ⟨by decide, dots.symm, no_blank⟩
    · cases component
      exact ⟨⟨nofun, nofun⟩, rfl, no_blank⟩

theorem spelled_eq (p : Path) : p.spelled = (Text.splitOn '/' p.text).filterMap classify := by
  have none_leads : p.leading.filter (fun c => c ≠ .root ∧ c ≠ .here) = [] := by
    unfold leading
    split
    · rfl
    · split <;> rfl
  rw [spelled, components_eq, List.filter_append, none_leads, List.nil_append, List.filter_eq_self]
  intro c member
  obtain ⟨piece, -, component⟩ := List.mem_filterMap.mp member
  exact decide_eq_true (classify_spelled component).1

theorem root_mem_iff (p : Path) : .root ∈ p.components ↔ p.isAbsolute = true := by
  rw [components_eq, List.mem_append]
  constructor
  · rintro (leads | spelled)
    · by_contra relative
      unfold leading at leads
      rw [if_neg relative] at leads
      split at leads <;> simp at leads
    · obtain ⟨piece, -, component⟩ := List.mem_filterMap.mp spelled
      exact absurd rfl (classify_spelled component).1.1
  · intro absolute
    simp [leading, absolute]

end Path

namespace FileTree

variable {t after : FileTree} {p out : Path}

/-! Following paths -/

theorem isDirectory_of_follow {start last : Location} {pieces : List Line}
    (followed : t.follow start pieces = .ok last) (directory : t.isDirectory last = true) :
    t.isDirectory start = true := by
  cases pieces with
  | nil =>
    cases followed
    exact directory
  | cons piece rest =>
    by_contra none_here
    simp [follow, enter, none_here] at followed

theorem follow_components {start last : Location} (pieces : List Line)
    (directory : t.isDirectory last = true) :
    t.follow start pieces = .ok last ↔
      t.follow start ((pieces.filterMap Path.classify).map Path.pieceOf) = .ok last := by
  induction pieces generalizing start with
  | nil => rfl
  | cons piece rest ih =>
    cases component : Path.classify piece with
    | none =>
      have blank := Path.blank_of_classify component
      rw [List.filterMap_cons_none component, ← ih, follow, enter]
      constructor
      · intro followed
        by_cases here : t.isDirectory start = true
        · simpa [here, blank] using followed
        · simp [here] at followed
      · intro followed
        have here := isDirectory_of_follow followed directory
        simpa [here, blank] using followed
    | some c =>
      rw [List.filterMap_cons_some component, List.map_cons, (Path.classify_spelled component).2.1,
        follow, follow]
      cases t.enter start piece with
      | error fault => simp
      | ok next => exact ih

def LeadsTo (t : FileTree) (p : Path) (directory : Location) : Prop :=
  t.isDirectory directory = true ∧
    t.follow (t.origin p) (Text.splitOn '/' p.text) = .ok directory

/-- A file is put into the directory that its path leads to without the name. -/
theorem Destination.leadsTo (d : Destination t p) {c : Component}
    (above : p.components = out.components ++ [c]) : t.LeadsTo out d.directory := by
  have whole : p.components =
      (p.leading ++ d.before.filterMap Path.classify) ++ [.name d.name] := by
    rw [Path.components_eq, d.pieces, List.filterMap_append, List.append_assoc]
    simp [Path.classify_name d.names]
  obtain ⟨front, last⟩ := List.append_inj' (whole.symm.trans above) rfl
  obtain rfl := (List.cons.inj last).1
  have spelled : d.before.filterMap Path.classify =
      (Text.splitOn '/' out.text).filterMap Path.classify := by
    have both : p.spelled = out.spelled ++ [.name d.name] := by
      rw [Path.spelled, above, List.filter_append]
      rfl
    rw [Path.spelled_eq, Path.spelled_eq, d.pieces, List.filterMap_append] at both
    simpa [Path.classify_name d.names] using both
  have absolute : p.isAbsolute = out.isAbsolute := by
    have roots : .root ∈ p.components ↔ .root ∈ out.components := by simp [above]
    rw [Path.root_mem_iff, Path.root_mem_iff] at roots
    exact Bool.eq_iff_iff.mpr roots
  have origin : t.origin p = t.origin out := by rw [FileTree.origin, FileTree.origin, absolute]
  refine ⟨d.inside, ?_⟩
  rw [follow_components _ d.inside, ← spelled, ← follow_components _ d.inside, ← origin]
  exact d.found

section Mono

variable (directories : ∀ key, t.isDirectory key = true → after.isDirectory key = true)
  (entries : ∀ key, (t.lookup? key).isSome → (after.lookup? key).isSome)

include directories entries

theorem enter_mono {start next : Location} {piece : Line}
    (entered : t.enter start piece = .ok next) : after.enter start piece = .ok next := by
  unfold enter at entered ⊢
  split at entered
  · rename_i inside
    rw [if_pos (directories start inside)]
    split at entered
    · rename_i blank
      rwa [if_pos blank]
    · rename_i some_piece
      rw [if_neg some_piece]
      split at entered
      · rename_i dots
        rwa [if_pos dots]
      · rename_i named
        rw [if_neg named]
        split at entered
        · rename_i present
          rwa [if_pos (entries _ present)]
        · cases entered
  · cases entered

theorem follow_mono {start last : Location} {pieces : List Line}
    (followed : t.follow start pieces = .ok last) : after.follow start pieces = .ok last := by
  induction pieces generalizing start with
  | nil => exact followed
  | cons piece rest ih =>
    rw [follow] at followed ⊢
    cases entered : t.enter start piece with
    | error fault => simp [entered] at followed
    | ok next =>
      rw [entered] at followed
      rw [enter_mono directories entries entered]
      exact ih followed

end Mono

/-! What changes -/

/-- The trees differ by new directories, and by files of these names in the directory that `out` leads
to. -/
structure WritesOnly (out : Path) (names : List Line) (t after : FileTree) : Prop where
  workingDirectory : after.workingDirectory = t.workingDirectory
  leads : ∀ directory, t.LeadsTo out directory → after.LeadsTo out directory
  entries : ∀ location, after.lookup? location = t.lookup? location ∨
    (t.lookup? location = none ∧ after.lookup? location = some .directory) ∨
    ∃ directory, ∃ name ∈ names, location = directory ++ [name] ∧ after.LeadsTo out directory

namespace WritesOnly

variable {names : List Line}

theorem refl (t : FileTree) : WritesOnly out names t t :=
  ⟨rfl, fun _ leads => leads, fun _ => .inl rfl⟩

theorem trans {middle : FileTree} (first : WritesOnly out names t middle)
    (second : WritesOnly out names middle after) : WritesOnly out names t after where
  workingDirectory := second.workingDirectory.trans first.workingDirectory
  leads directory leads := second.leads directory (first.leads directory leads)
  entries location := by
    rcases second.entries location with same | ⟨fresh, made⟩ | written
    · rcases first.entries location with before | ⟨fresh, made⟩ | ⟨directory, name, among, at_, leads⟩
      · exact .inl (same.trans before)
      · exact .inr (.inl ⟨fresh, same.trans made⟩)
      · exact .inr (.inr ⟨directory, name, among, at_, second.leads directory leads⟩)
    · rcases first.entries location with before | ⟨-, made'⟩ | ⟨directory, name, among, at_, leads⟩
      · exact .inr (.inl ⟨before.symm.trans fresh, made⟩)
      · rw [fresh] at made'
        cases made'
      · exact .inr (.inr ⟨directory, name, among, at_, second.leads directory leads⟩)
    · exact .inr (.inr written)

end WritesOnly

theorem writesOnly_put {names : List Line} {location : Location} {entry : Entry}
    (below_root : location ≠ []) (free : t.isDirectory location = true → entry = .directory)
    (allowed : (t.lookup? location = none ∧ entry = .directory) ∨
      ∃ directory, ∃ name ∈ names, location = directory ++ [name] ∧ t.LeadsTo out directory) :
    WritesOnly out names t (t.put location entry) := by
  have looked := t.lookup_put below_root entry
  have directories : ∀ key, t.isDirectory key = true →
      (t.put location entry).isDirectory key = true := by
    intro key directory
    rw [isDirectory, looked]
    by_cases same : location = key
    · subst same
      simp [free directory]
    · simpa [same, isDirectory] using directory
  have entries : ∀ key, (t.lookup? key).isSome → ((t.put location entry).lookup? key).isSome := by
    intro key present
    rw [looked]
    split
    · rfl
    · exact present
  have leads : ∀ directory, t.LeadsTo out directory → (t.put location entry).LeadsTo out directory :=
    fun directory leads =>
      ⟨directories directory leads.1, follow_mono directories entries leads.2⟩
  refine ⟨rfl, leads, ?_⟩
  intro key
  rw [looked]
  by_cases same : location = key
  · subst same
    rw [if_pos rfl]
    rcases allowed with ⟨fresh, rfl⟩ | ⟨directory, name, among, at_, led⟩
    · exact .inr (.inl ⟨fresh, rfl⟩)
    · exact .inr (.inr ⟨directory, name, among, at_, leads directory led⟩)
  · exact .inl (if_neg same)

theorem makeDirectory_writesOnly {names : List Line} (made : t.makeDirectory p = .ok after) :
    WritesOnly out names t after := by
  unfold makeDirectory at made
  cases slot : t.slot p .exists with
  | error fault => simp [slot] at made
  | ok location =>
    simp only [slot] at made
    split at made
    · cases made
    · rename_i fresh
      cases made
      have none_there : t.lookup? location = none := Option.not_isSome_iff_eq_none.mp fresh
      apply writesOnly_put
      · rintro rfl
        cases none_there
      · exact fun _ => rfl
      · exact .inl ⟨none_there, rfl⟩

theorem makeDirectories_writesOnly {names : List Line} {depth : Nat}
    (made : t.makeDirectories depth p = .ok after) : WritesOnly out names t after := by
  induction depth generalizing t p after with
  | zero =>
    cases made
    exact .refl t
  | succ depth ih =>
    rw [makeDirectories] at made
    split at made
    · cases made
      exact .refl t
    · split at made
      · rename_i done
        cases made
        exact makeDirectory_writesOnly done
      · split at made
        · cases made
        · rename_i above found
          split at made
          · rename_i done
            cases made
            exact (ih found).trans (makeDirectory_writesOnly done)
          · split at made
            · cases made
              exact ih found
            · cases made
      · split at made
        · cases made
          exact .refl t
        · cases made

theorem makeParent_writesOnly {names : List Line} (made : t.makeParent p = .ok after) :
    WritesOnly out names t after := by
  unfold makeParent at made
  split at made
  · split at made
    · cases made
      exact .refl t
    · exact makeDirectories_writesOnly made
  · cases made
    exact .refl t

theorem write_writesOnly {names : List Line} {name : Line} {content : ByteArray}
    (written : t.write p content = .ok after) (among : name ∈ names)
    (above : p.components = out.components ++ [.name name]) : WritesOnly out names t after := by
  obtain ⟨d, rfl⟩ := destination_of_write written
  have last : d.name = name := by
    have named := Path.fileName_of_pieces d.pieces d.names
    rw [Path.fileName_components, above, List.getLast?_concat] at named
    exact (Option.some.inj named).symm
  apply writesOnly_put (t.below_root d.location_free)
  · intro directory
    rw [d.location_free] at directory
    cases directory
  · exact .inr ⟨d.directory, name, among, last ▸ rfl, d.leadsTo above⟩

end FileTree
end CodeAtlas
