import CodeAtlas.Config.Load
import CodeAtlas.Pipeline.Standard
import CodeAtlas.Proofs.FileTree.Changes

/-!
Where the last stage writes. The index goes where its name leads to from the output directory, and
its table goes next to it; both are in that directory if the name is one that a directory's entry can
have.
-/
namespace CodeAtlas

namespace Path

variable {p out : Path} {name : Line}

theorem entriesPath_join (out : Path) (names : FileTree.Names name) :
    ∃ parent, (out.join ⟨name⟩).parent? = some parent ∧ parent.components = out.components ∧
      entriesPath (out.join ⟨name⟩) = parent.join ⟨tableName name⟩ := by
  have components := parent_join out names
  cases above : (out.join ⟨name⟩).parent? with
  | none => simp [above] at components
  | some parent =>
    refine ⟨parent, rfl, ?_, ?_⟩
    · simpa [above] using components
    · simp [entriesPath, withFileName, fileStem?, fileName_join out names, above, tableName]

theorem tableName_names (names : FileTree.Names name) : FileTree.Names (tableName name) :=
  ⟨tableName_isName name, tableName_no_slash names.no_slash⟩

end Path

section Standard

open FileTree (WritesOnly)

variable {World : Type} (e : Enricher World) (v : Vectorizer World) {path out : Path}
  (wait : Nat → World → World) {names : List Line} {name table : Line} (state : RunState World)

theorem updateBuilder_files (made : Except ServiceFault IndexBuilder) :
    (state.updateBuilder made).2.files = state.files := by
  cases made <;> rfl

theorem addBatches_files (total first : Nat) (batches : List (List Embedding)) :
    (addBatches (.standard e v path wait) total first batches state).state.files =
      state.files := by
  induction batches generalizing first state with
  | nil => rfl
  | cons batch rest ih =>
    have kept := updateBuilder_files state (state.builder.add first batch)
    rw [addBatches]
    cases adding : (Services.standard e v path wait).addVectors first batch state with
    | mk outcome after =>
      have same : after.files = state.files := by
        rw [← kept]
        exact congrArg (·.2.files) adding.symm
      cases outcome with
      | error fault => exact same
      | ok => exact (ih after (first + batch.length)).trans same

theorem save_writesOnly (b : IndexBuilder) (files : FileTree) (among : name ∈ names)
    (above : path.components = out.components ++ [.name name]) :
    WritesOnly out names files (b.save path files).2 := by
  unfold IndexBuilder.save
  cases b.index with
  | error fault => exact .refl files
  | ok index =>
    cases made : files.makeParent path with
    | error fault => exact .refl files
    | ok middle =>
      have first : WritesOnly out names files middle := FileTree.makeParent_writesOnly made
      cases written : middle.write path index.toText.toUTF8 with
      | error fault => simpa only [written] using first
      | ok after =>
        simpa only [written] using first.trans (FileTree.write_writesOnly written among above)

theorem saved_path {indexPath : Path}
    (outcome : (state.saveIndex path).1 = .ok indexPath) : path = indexPath := by
  cases made : (state.builder.save path state.files).1 with
  | error fault => simp [RunState.saveIndex, made, Except.map] at outcome
  | ok => simpa [RunState.saveIndex, made, Except.map] using outcome

theorem writeText_writesOnly (text : String) (among : name ∈ names)
    (above : path.components = out.components ++ [.name name]) :
    WritesOnly out names state.files (state.writeText path text).2.files := by
  unfold RunState.writeText
  cases written : state.files.write path text.toUTF8 with
  | error fault => exact .refl state.files
  | ok after => exact FileTree.write_writesOnly written among above

variable (index : path.components = out.components ++ [.name name])
  (entries : (entriesPath path).components = out.components ++ [.name table])

include index entries

theorem saveItems_writesOnly (items : List Item) (count : Nat) :
    WritesOnly out [name, table] state.files
      (saveItems (.standard e v path wait) items count state).state.files := by
  let s := Services.standard e v path wait
  let optimized : RunState World := { state with builder := state.builder.optimize }
  have optimizing : s.optimizeIndex state = (.ok (), optimized) := rfl
  have saving : WritesOnly out [name, table] state.files (s.saveIndex optimized).2.files :=
    save_writesOnly _ _ List.mem_cons_self index
  cases saved : s.saveIndex optimized with
  | mk outcome after =>
    rw [saved] at saving
    cases outcome with
    | error fault => simpa only [saveItems, s, optimizing, saved] using saving
    | ok indexPath =>
      obtain rfl : path = indexPath := saved_path _ (congrArg Prod.fst saved)
      let text := IndexEntry.tableText (IndexEntry.ofItems items)
      have writing : WritesOnly out [name, table] after.files
          (s.writeText (entriesPath path) text after).2.files :=
        writeText_writesOnly after text (by simp) entries
      cases written : s.writeText (entriesPath path) text after with
      | mk outcome last =>
        rw [written] at writing
        have whole := saving.trans writing
        cases outcome <;> simpa only [saveItems, s, text, optimizing, saved, written] using whole

theorem indexItems_writesOnly (size dimension : Nat) (items : List Item) :
    WritesOnly out [name, table] state.files
      (indexItems (.standard e v path wait) size dimension items state).state.files := by
  let s := Services.standard e v path wait
  unfold indexItems
  cases vectorsOf dimension items with
  | error defect => exact .refl state.files
  | ok vectors =>
    have starting := updateBuilder_files state (IndexBuilder.start dimension)
    cases started : s.startIndex dimension state with
    | mk outcome after =>
      have same : after.files = state.files := by
        rw [← starting]
        exact congrArg (·.2.files) started.symm
      cases outcome with
      | error fault => simpa only [indexVectors, s, started, same] using .refl state.files
      | ok =>
        have added : (addBatches s items.length 0 (batches size vectors) after).state.files =
            after.files := addBatches_files e v wait after items.length 0 (batches size vectors)
        cases outcome : (addBatches s items.length 0 (batches size vectors) after).outcome with
        | error fault =>
          simpa only [indexVectors, s, started, outcome, added, same] using .refl state.files
        | ok count =>
          have saving := saveItems_writesOnly e v wait
            (addBatches s items.length 0 (batches size vectors) after).state index entries items
            count
          simpa only [indexVectors, s, started, outcome, added, same] using saving

end Standard

theorem store_state {State α : Type} (r : StageRun State α) (results : StageResults)
    (output : α → StageOutput) : (r.store results output).state = r.state := by
  unfold StageRun.store
  split <;> rfl

theorem runIndexing_state {State : Type} (p : Pipeline State) (results : StageResults)
    (state : State) :
    (p.runIndexing results state).state = state ∨ ∃ dimension items,
      (p.runIndexing results state).state =
        (indexItems p.services p.settings.indexBatchSize dimension items state).state := by
  unfold Pipeline.runIndexing
  split
  · exact .inl rfl
  · exact .inl rfl
  · exact .inr ⟨_, _, store_state _ _ _⟩

namespace Config

/-- The index lies in the output directory under its name exactly if the name is one that an entry of
a directory can have. Then its table lies there as well, and the last stage makes directories and
writes these two files, whatever the stages before it left. -/
theorem index_lies_in_output_iff_named {World : Type} (c : Config) (trees : TreeSource)
    (provider : Provider World) (wait : Nat → World → World) (results : StageResults)
    (state : RunState World) :
    let out := c.project.resolvedOutput
    let name := c.index.fileName.toList
    let table := Path.tableName name
    let after := ((c.pipeline trees provider wait).runStage .indexing results state).state
    (c.indexPath.parent?.map Path.components = some out.components ∧
        c.indexPath.fileName? = some name ↔ FileTree.Names name) ∧
      (FileTree.Names name →
        (entriesPath c.indexPath).parent?.map Path.components = some out.components ∧
          (entriesPath c.indexPath).fileName? = some table ∧
          FileTree.WritesOnly out [name, table] state.files after.files) := by
  intro out name table after
  have path : c.indexPath = out.join ⟨name⟩ := rfl
  refine ⟨⟨fun lies => Path.names_of_fileName lies.2, fun names => ?_⟩, fun names => ?_⟩
  · rw [path]
    exact ⟨Path.parent_join out names, Path.fileName_join out names⟩
  · obtain ⟨parent, -, same, entries⟩ := Path.entriesPath_join out names
    have tabled := Path.tableName_names names
    have here : c.indexPath.components = out.components ++ [.name name] :=
      Path.components_join out names
    have beside : (entriesPath c.indexPath).components = out.components ++ [.name table] := by
      rw [path, entries, Path.components_join parent tabled, same]
    refine ⟨?_, ?_, ?_⟩
    · rw [path, entries, ← same]
      exact Path.parent_join parent tabled
    · rw [path, entries]
      exact Path.fileName_join parent tabled
    · rcases runIndexing_state (c.pipeline trees provider wait) results state with
        same | ⟨dimension, items, same⟩
      · exact (congrArg (FileTree.WritesOnly out _ state.files ·.files) same).mpr (.refl state.files)
      · exact (congrArg (FileTree.WritesOnly out _ state.files ·.files) same).mpr
          (indexItems_writesOnly _ _ wait state here beside _ dimension items)

theorem default_index_lies_in_output :
    let c : Config := {}
    let name := "index.json".toList
    let table := "index.entries.json".toList
    let silent : Provider Unit := ⟨"silent", false, fun _ world => (.error .rateLimited, world),
      fun _ world => (.error .rateLimited, world)⟩
    let step (results : StageResults) (state : RunState Unit) :=
      (c.pipeline noTrees silent fun _ world => world).runStage .indexing results state
    c.validate = .ok c ∧ FileTree.Names name ∧
      c.indexPath.parent?.map Path.components = some c.project.resolvedOutput.components ∧
      c.indexPath.fileName? = some name ∧
      ∀ results state, FileTree.WritesOnly c.project.resolvedOutput [name, table] state.files
        (step results state).state.files := by
  intro c name table silent step
  have names : FileTree.Names name := by decide
  have lies := fun results state =>
    c.index_lies_in_output_iff_named noTrees silent (fun _ world => world) results state
  obtain ⟨parent, named⟩ := (lies {} ⟨(), {}, ⟨0, 0⟩, {}, none, {}⟩).1.mpr names
  have tabled : Path.tableName c.index.fileName.toList = table := by decide
  refine ⟨by decide, names, parent, named, fun results state => ?_⟩
  obtain ⟨-, -, only⟩ := (lies results state).2 names
  rwa [tabled] at only

/-- A name that is accepted, and is itself a path from the root on: the index goes into the root of
the file system, whatever the output directory is. -/
theorem absolute_name_leaves_output :
    let c : Config := { index := { fileName := "/index.json" } }
    let files : FileTree := .mk [(["home".toList], .directory)] ["home".toList]
    let builder : IndexBuilder := { dimension := some 1 }
    c.validate = .ok c ∧
      c.indexPath.parent?.map Path.components ≠ some c.project.resolvedOutput.components ∧
      (builder.save c.indexPath files).2.isFile ["index.json".toList] = true := by
  decide

end Config
end CodeAtlas
