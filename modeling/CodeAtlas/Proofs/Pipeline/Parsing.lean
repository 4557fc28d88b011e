import CodeAtlas.Pipeline.Standard
import CodeAtlas.Proofs.Discovery.Resolve
import CodeAtlas.Proofs.Outline.Joining
import CodeAtlas.Proofs.Pipeline.Frame

/-!
The items that parsing finds. All files share the parsers, which keep their grammars, and one loop
gathers what is found; yet each file gives the items it would give alone, and a file that cannot be
parsed gives none and costs no other file any.
-/
namespace CodeAtlas

section File

variable (files : FileTree) (trees : TreeSource) (time : Timestamp) (root path : Path)

/-- The items of one file: those of its text by the rules for its extension, if both are there. -/
def itemsIn : List Item :=
  match rulesFor? path, files.readText path with
  | some language, .ok text =>
    extractItems language (String.ofList (path.relativeTo root)) text.toList
      (trees path text.toList) time
  | _, _ => []

def isParsed : Bool := isSupported path && (files.readText path).isOk

theorem itemsIn_of_unparsed (unparsed : isParsed files path = false) :
    itemsIn files trees time root path = [] := by
  unfold itemsIn
  split
  · rename_i language text rules read
    simp [isParsed, isSupported, rules, read, Except.isOk, Except.toBool] at unparsed
  · rfl

/-- Only a file's rules, text and tree matter, and the time shows only in the stamps. -/
theorem itemsIn_stamped (later : FileTree) (other again : Timestamp)
    (same : files.readText path = later.readText path) :
    (itemsIn files trees time root path).map (Item.stamped again) =
      (itemsIn later trees other root path).map (Item.stamped again) := by
  have stamp (file : SourceFile) : Item.stamped again ∘ file.item =
      SourceFile.item { file with extractedAt := again } :=
    funext fun c => file.item_stamped c again
  rw [itemsIn, itemsIn, ← same]
  split
  · simp only [extractItems, List.map_map, stamp]
    rfl
  · rfl

end File

/-! Parsers that are shared -/

namespace Parsers

variable {p : Parsers}

/-- Every grammar that was kept is what it would be if it were loaded now. -/
def Faithful (p : Parsers) : Prop := ∀ entry ∈ p.loaded, entry.2 = p.trees

theorem fresh_faithful (trees : TreeSource) : Faithful { trees } := fun _ member => nomatch member

theorem grammar_faithful (faithful : p.Faithful) (dialect : Dialect) :
    (p.grammar dialect).1 = p.trees ∧ (p.grammar dialect).2.trees = p.trees ∧
      (p.grammar dialect).2.Faithful := by
  unfold grammar
  split
  · rename_i grammar kept
    obtain ⟨before, after, loaded, -⟩ := List.lookup_eq_some_iff.mp kept
    have member : (dialect, grammar) ∈ p.loaded := by simp [loaded]
    exact ⟨faithful _ member, rfl, faithful⟩
  · refine ⟨rfl, rfl, ?_⟩
    intro entry member
    rcases List.mem_cons.mp member with rfl | earlier
    · rfl
    · exact faithful entry earlier

variable (files : FileTree) (time : Timestamp) (root path : Path)

/-- A file gives faithful parsers its own items, and leaves them faithful, whatever becomes of it. -/
theorem parse_faithful (faithful : p.Faithful) :
    ∃ after, after.trees = p.trees ∧ after.Faithful ∧
      ((isParsed files path = true ∧
          p.parse files time root path = (.ok (itemsIn files p.trees time root path), after)) ∨
        isParsed files path = false ∧
          ∃ fault, p.parse files time root path = (.error fault, after)) := by
  unfold parse isParsed itemsIn isSupported
  cases rules : rulesFor? path with
  | none => exact ⟨p, rfl, faithful, .inr ⟨rfl, _, rfl⟩⟩
  | some language =>
    cases read : files.readText path with
    | error fault => exact ⟨p, rfl, faithful, .inr ⟨rfl, _, rfl⟩⟩
    | ok text =>
      obtain ⟨grammar, trees, kept⟩ := grammar_faithful faithful
        (.of language (.ofString (String.ofList (path.relativeTo root))))
      refine ⟨_, trees, kept, .inl ⟨rfl, ?_⟩⟩
      simp only [grammar]

end Parsers

/-! The loop over the files -/

namespace Harvest

variable (files : FileTree) (trees : TreeSource) (time : Timestamp) (root : Path)

structure Gathers (before after : Harvest) (paths : List Path) : Prop where
  trees_eq : after.parsers.trees = trees
  faithful : after.parsers.Faithful
  items_eq : after.items = before.items ++ paths.flatMap (itemsIn files trees time root)
  parsed_eq : after.filesParsed = before.filesParsed + paths.countP (isParsed files)
  failed_eq : after.filesFailed = before.filesFailed + paths.countP (!isParsed files ·)

theorem add_gathers {h : Harvest} (own : h.parsers.trees = trees)
    (faithful : h.parsers.Faithful) (path : Path) :
    Gathers files trees time root h (h.add files time root path) [path] := by
  obtain ⟨after, same, kept, ⟨parsed, read⟩ | ⟨unparsed, fault, read⟩⟩ :=
    Parsers.parse_faithful files time root path faithful
  · rw [own] at same read
    rw [Harvest.add, read]
    exact ⟨same, kept, by simp, by simp [parsed], by simp [parsed]⟩
  · have nothing := itemsIn_of_unparsed files trees time root path unparsed
    rw [Harvest.add, read]
    exact ⟨same.trans own, kept, by simp [nothing], by simp [unparsed], by simp [unparsed]⟩

theorem Gathers.refl {h : Harvest} (own : h.parsers.trees = trees)
    (faithful : h.parsers.Faithful) : Gathers files trees time root h h [] :=
  ⟨own, faithful, by simp, by simp, by simp⟩

variable {files trees time root} in
theorem Gathers.trans {before middle after : Harvest} {paths more : List Path}
    (first : Gathers files trees time root before middle paths)
    (later : Gathers files trees time root middle after more) :
    Gathers files trees time root before after (paths ++ more) where
  trees_eq := later.trees_eq
  faithful := later.faithful
  items_eq := by
    rw [later.items_eq, first.items_eq, List.append_assoc, ← List.flatMap_append]
  parsed_eq := by
    rw [later.parsed_eq, first.parsed_eq, Nat.add_assoc, ← List.countP_append]
  failed_eq := by
    rw [later.failed_eq, first.failed_eq, Nat.add_assoc, ← List.countP_append]

theorem foldl_gathers {h : Harvest} (own : h.parsers.trees = trees)
    (faithful : h.parsers.Faithful) (paths : List Path) :
    Gathers files trees time root h (paths.foldl (Harvest.add files time root) h) paths := by
  induction paths generalizing h with
  | nil => exact .refl files trees time root own faithful
  | cons path rest ih =>
    have first := add_gathers files trees time root own faithful path
    exact first.trans (ih first.trees_eq first.faithful)

theorem parseAll_gathers (paths : List Path) :
    Gathers files trees time root { parsers := { trees } } (parseAll files trees time root paths)
      paths :=
  foldl_gathers files trees time root rfl (Parsers.fresh_faithful trees) paths

end Harvest

/-! Runs of the stage -/

namespace Pipeline

variable {State : Type}

structure Parses (p : Pipeline State) (results : StageResults) (state : State) (root : Path)
    (paths : List Path) (found : ExtractedItems) : Prop where
  accessible : p.discovery.canonicalRoot (p.services.files state) = .ok root
  succeeds : (p.runStage .parsing results state).outcome = .ok ()
  stored : (p.runStage .parsing results state).results.extracted = some found
  files_eq : found.files = paths
  items_eq : found.items = some (paths.flatMap
    (itemsIn (p.services.files state) p.trees (p.services.now state) root))
  discovered : found.stats.filesDiscovered = paths.length
  parsed : found.stats.filesParsed = paths.countP (isParsed (p.services.files state))
  accounted : found.stats.filesParsed + found.stats.filesFailed = found.stats.filesDiscovered
  extracted : ∀ items, found.items = some items → found.stats.itemsExtracted = items.length

theorem runStage_parses (p : Pipeline State) (results : StageResults) (state : State)
    {paths : List Path} (resolved : p.discovery.resolve (p.services.files state) = .ok paths) :
    ∃ root found, p.Parses results state root paths found := by
  obtain ⟨root, accessible⟩ := Discovery.canonicalRoot_of_resolve resolved
  let files := p.services.files state
  let time := p.services.now state
  have gathers := Harvest.parseAll_gathers files p.trees time root paths
  have items : (parseAll files p.trees time root paths).items =
      paths.flatMap (itemsIn files p.trees time root) := by
    rw [gathers.items_eq, List.nil_append]
  have parsed : (parseAll files p.trees time root paths).filesParsed =
      paths.countP (isParsed files) := by
    rw [gathers.parsed_eq, Nat.zero_add]
  have failed : (parseAll files p.trees time root paths).filesFailed =
      paths.countP (!isParsed files ·) := by
    rw [gathers.failed_eq, Nat.zero_add]
  let found := (extractFrom files p.trees time root paths).1
  have extracted : (p.discovery.extract p.trees p.services state).outcome = .ok found := by
    simp only [Discovery.extract, accessible, resolved]
    rfl
  have step : p.runStage .parsing results state = ⟨.ok (), results.insert (.extracted found),
      (p.discovery.extract p.trees p.services state).events,
      (p.discovery.extract p.trees p.services state).state⟩ :=
    StageRun.store_of_ok _ _ _ found extracted
  refine ⟨root, found, accessible, by rw [step], by rw [step]; rfl, rfl, congrArg some items, rfl,
    parsed, ?_, ?_⟩
  · calc
      found.stats.filesParsed + found.stats.filesFailed =
          paths.countP (isParsed files) + paths.countP (!isParsed files ·) :=
        congrArg₂ (· + ·) parsed failed
      _ = paths.length := by
        rw [List.length_eq_countP_add_countP (isParsed files)]
        simp
  · intro held same
    cases same
    rfl

/-- A run in which discovery succeeds: it ends well and leaves the items of all files that have rules
and a text, file by file in the order of their paths, and counts all files. Another run whose files are
the same, apart from some that were added, removed or changed, leaves the same items of the same files
in the same order, but for their stamps. A selection with one more path differs at most in the file
that path leads to. -/
theorem parsing_isolates_files (p : Pipeline State) (results : StageResults) (state : State)
    (paths : List Path) (resolved : p.discovery.resolve (p.services.files state) = .ok paths) :
    let files := p.services.files state
    ∃ root found, p.Parses results state root paths found ∧
      (∀ (d : Discovery) (before : StageResults) (now : State) (others changed : List Path),
        let q : Pipeline State := { p with discovery := d }
        d.resolve (p.services.files now) = .ok others →
        d.canonicalRoot (p.services.files now) = .ok root →
        (∀ path ∉ changed, (path ∈ paths ↔ path ∈ others) ∧
          (path ∈ paths → files.readText path = (p.services.files now).readText path)) →
        ∃ again, q.Parses before now root others again ∧
          let kept := paths.filter (· ∉ changed)
          others.filter (· ∉ changed) = kept ∧
          ∀ stamp,
            (kept.flatMap (itemsIn files p.trees (p.services.now state) root)).map
                (Item.stamped stamp) =
              (kept.flatMap (itemsIn (p.services.files now) p.trees (p.services.now now) root)).map
                (Item.stamped stamp)) ∧
      (files.Proper → p.discovery.selected ≠ [] → ∀ chosen, ∃ more,
        Discovery.resolve { p.discovery with selected := chosen :: p.discovery.selected } files =
          .ok more ∧
        ∀ path, files.canonical (root.join chosen) ≠ .ok path → (path ∈ paths ↔ path ∈ more)) := by
  intro files
  obtain ⟨root, found, parses⟩ := p.runStage_parses results state resolved
  refine ⟨root, found, parses, ?others, ?selecting⟩
  case selecting =>
    intro proper selects chosen
    exact Discovery.resolve_selecting proper parses.accessible resolved selects chosen
  case others =>
    intro d before now others changed q resolvedNow accessible same
    obtain ⟨rootNow, again, parsesNow⟩ := q.runStage_parses before now resolvedNow
    obtain rfl : rootNow = root :=
      Except.ok.inj (parsesNow.accessible.symm.trans accessible)
    refine ⟨again, parsesNow, ?_, ?_⟩
    · exact Path.Increasing.filter_eq (Discovery.resolve_increasing resolved)
        (Discovery.resolve_increasing resolvedNow) changed fun path unchanged =>
          (same path unchanged).1
    · intro stamp
      rw [List.map_flatMap, List.map_flatMap]
      apply List.flatMap_congr
      intro path member
      obtain ⟨selected, unchanged⟩ := List.mem_filter.mp member
      exact itemsIn_stamped _ _ _ _ path _ _ stamp
        ((same path (of_decide_eq_true unchanged)).2 selected)

theorem broken_file_costs_no_other :
    let silent : Provider Unit := ⟨"silent", true, fun _ world => (.error .rateLimited, world),
      fun _ world => (.error .rateLimited, world)⟩
    let c : Config := { project := { selected := [.ofString "b.go", .ofString "a.go",
      .ofString "notes.txt"] } }
    let p := c.pipeline noTrees silent fun _ world => world
    let project (text : ByteArray) : FileTree :=
      .mk [(["a.go".toList], .file "func A() {}".toUTF8), (["b.go".toList], .file text),
        (["notes.txt".toList], .file .empty)] []
    let state : RunState Unit := { world := (), time := ⟨0, 0⟩, files := project "func B() {}".toUTF8 }
    let now : RunState Unit := { world := (), time := ⟨5, 0⟩, files := project ⟨#[255]⟩ }
    let paths := [Path.ofString "/a.go", .ofString "/b.go", .ofString "/notes.txt"]
    p.discovery.resolve (p.services.files state) = .ok paths ∧
      ∃ root found again, p.Parses {} state root paths found ∧ p.Parses {} now root paths again ∧
        found.stats.filesParsed = 2 ∧ found.stats.filesFailed = 1 ∧
        again.stats.filesParsed = 1 ∧ again.stats.filesFailed = 2 := by
  intro silent c p project state now paths
  have resolved : p.discovery.resolve (p.services.files state) = .ok paths := by decide +kernel
  have resolvedNow : p.discovery.resolve (p.services.files now) = .ok paths := by decide +kernel
  have accessible : p.discovery.canonicalRoot (p.services.files now) =
      p.discovery.canonicalRoot (p.services.files state) := by decide +kernel
  have texts : ∀ path ∈ paths, path ∉ [Path.ofString "/b.go"] →
      (p.services.files state).readText path = (p.services.files now).readText path := by
    decide +kernel
  obtain ⟨root, found, parses, isolated, -⟩ := p.parsing_isolates_files {} state paths resolved
  obtain ⟨again, parsesNow, -, -⟩ := isolated p.discovery {} now paths [.ofString "/b.go"]
    resolvedNow (accessible.trans parses.accessible) fun path unchanged =>
      ⟨Iff.rfl, fun member => texts path member unchanged⟩
  have two : paths.countP (isParsed (p.services.files state)) = 2 := by decide +kernel
  have one : paths.countP (isParsed (p.services.files now)) = 1 := by decide +kernel
  have parsed := parses.parsed.trans two
  have parsedNow := parsesNow.parsed.trans one
  have accounted := parses.accounted.trans parses.discovered
  have accountedNow := parsesNow.accounted.trans parsesNow.discovered
  have three : paths.length = 3 := rfl
  exact ⟨resolved, root, found, again, parses, parsesNow, parsed, by omega, parsedNow, by omega⟩

end Pipeline
end CodeAtlas
