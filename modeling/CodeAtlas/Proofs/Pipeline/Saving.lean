import CodeAtlas.Pipeline.Standard
import CodeAtlas.Proofs.Index.Building
import CodeAtlas.Proofs.Index.Table
import CodeAtlas.Proofs.Pipeline.Layers

/-!
The last stage with a flat index. Whatever the builder was used for before, the vectors it ends up
with, the entries of the table and the items stand in the same order, and the table is a file of its
own.
-/
namespace CodeAtlas

open List (Forall₂)

section Standard

variable {World : Type} (e : Enricher World) (v : Vectorizer World) (path : Path)
  (wait : Nat → World → World)

theorem addBatches_standard {dimension : Nat} (total : Nat) (batches : List (List Embedding))
    (prior : List Embedding) (state : RunState World)
    (builder : state.builder = ⟨some dimension, prior, false⟩)
    (fit : ∀ batch ∈ batches, ∀ v ∈ batch, v.length = dimension) :
    ∃ events, addBatches (.standard e v path wait) total prior.length batches state =
      ⟨.ok batches.length, events,
        { state with builder := ⟨some dimension, prior ++ batches.flatten, false⟩ }⟩ := by
  induction batches generalizing prior state with
  | nil =>
    refine ⟨[], ?_⟩
    rw [List.flatten_nil, List.append_nil, ← builder]
    rfl
  | cons batch rest ih =>
    have added := IndexBuilder.add_fitting prior false (fit batch List.mem_cons_self)
    have step : (Services.standard e v path wait).addVectors prior.length batch state =
        (.ok (), { state with builder := ⟨some dimension, prior ++ batch, false⟩ }) := by
      simp only [Services.standard, builder, added, RunState.updateBuilder]
    obtain ⟨events, others⟩ := ih (prior ++ batch)
      { state with builder := ⟨some dimension, prior ++ batch, false⟩ } rfl
      fun later member => fit later (List.mem_cons_of_mem batch member)
    rw [List.length_append] at others
    refine ⟨addingEvent total (prior.length + batch.length) :: events, ?_⟩
    simp only [addBatches, step, others, Except.map, List.flatten_cons, List.append_assoc,
      List.length_cons]

def fullBuilder (dimension : Nat) (items : List Item) : IndexBuilder :=
  ⟨some dimension, (items.filterMap Item.vector).map Embedding.normalize, true⟩

inductive SavingEnds (dimension : Nat) (items : List Item) (files : FileTree) :
    Except PipelineFault SavedIndex → RunState World → Prop
  | unsaved (fault : FileFault) (after : RunState World)
      (refused : (fullBuilder dimension items).save path files =
        (.error (.file fault), after.files)) :
    SavingEnds dimension items files (.error (.service .indexing (.file fault))) after
  | untabled (fault : FileFault) (after : RunState World)
      (saved : (fullBuilder dimension items).save path files = (.ok (), after.files))
      (refused : after.files.write (entriesPath path)
        (IndexEntry.tableText (IndexEntry.ofItems items)).toUTF8 = .error fault) :
    SavingEnds dimension items files (.error (.write (entriesPath path) fault)) after
  | complete (made written : FileTree) (output : SavedIndex) (after : RunState World)
      (named : output.indexPath = path) (tabled : output.entriesPath = entriesPath path)
      (entries : output.entries = IndexEntry.ofItems items)
      (builder : after.builder = fullBuilder dimension items)
      (index : made.write path (FlatIndex.toText ⟨dimension, true,
        (fullBuilder dimension items).vectors⟩).toUTF8 = .ok written)
      (table : written.write (entriesPath path)
        (IndexEntry.tableText (IndexEntry.ofItems items)).toUTF8 = .ok after.files) :
    SavingEnds dimension items files (.ok output) after

theorem optimizeIndex_standard (state : RunState World) :
    (Services.standard e v path wait).optimizeIndex state =
      (.ok (), { state with builder := state.builder.optimize }) := rfl

theorem saveIndex_standard_of_error (state : RunState World) {fault : ServiceFault}
    {left : FileTree} (refused : state.builder.save path state.files = (.error fault, left)) :
    (Services.standard e v path wait).saveIndex state =
      (.error fault, { state with files := left }) := by
  simp only [Services.standard, RunState.saveIndex, refused]
  rfl

theorem saveIndex_standard_of_ok (state : RunState World) {written : FileTree}
    (saved : state.builder.save path state.files = (.ok (), written)) :
    (Services.standard e v path wait).saveIndex state =
      (.ok path, { state with files := written }) := by
  simp only [Services.standard, RunState.saveIndex, saved]
  rfl

theorem writeText_standard_of_error (state : RunState World) {place : Path} {text : String}
    {fault : FileFault} (refused : state.files.write place text.toUTF8 = .error fault) :
    (Services.standard e v path wait).writeText place text state = (.error fault, state) := by
  simp only [Services.standard, RunState.writeText, refused]

theorem writeText_standard_of_ok (state : RunState World) {place : Path} {text : String}
    {written : FileTree} (stored : state.files.write place text.toUTF8 = .ok written) :
    (Services.standard e v path wait).writeText place text state =
      (.ok (), { state with files := written }) := by
  simp only [Services.standard, RunState.writeText, stored]

theorem saveItems_standard {dimension : Nat} (items : List Item) (count : Nat)
    (state : RunState World) (full : state.builder.optimize = fullBuilder dimension items) :
    let saving := saveItems (.standard e v path wait) items count state
    SavingEnds path dimension items state.files saving.outcome saving.state ∧
      saving.state.dimension = state.dimension := by
  rcases (fullBuilder dimension items).save_cases path state.files rfl with
    ⟨fault, left, refused⟩ | ⟨made, written, saved, index⟩
  · have step := saveIndex_standard_of_error e v path wait
      { state with builder := fullBuilder dimension items } refused
    simp only [saveItems, optimizeIndex_standard, full, step]
    exact ⟨.unsaved fault _ refused, trivial⟩
  · have step := saveIndex_standard_of_ok e v path wait
      { state with builder := fullBuilder dimension items } saved
    cases table : written.write (entriesPath path)
        (IndexEntry.tableText (IndexEntry.ofItems items)).toUTF8 with
    | error fault =>
      have refused := writeText_standard_of_error e v path wait
        ⟨state.world, written, state.time, state.analyzer, state.dimension,
          fullBuilder dimension items⟩ table
      simp only [saveItems, optimizeIndex_standard, full, step, refused]
      exact ⟨.untabled fault _ saved table, trivial⟩
    | ok after =>
      have stored := writeText_standard_of_ok e v path wait
        ⟨state.world, written, state.time, state.analyzer, state.dimension,
          fullBuilder dimension items⟩ table
      simp only [saveItems, optimizeIndex_standard, full, step, stored]
      exact ⟨.complete made written _ _ rfl rfl rfl rfl index table, trivial⟩

/-- Items with vectors of the dimension are all in the builder before anything is saved. -/
theorem indexItems_standard {dimension : Nat} (positive : 0 < dimension) (size : Nat)
    {items : List Item} (vectors : ∀ item ∈ items, item.HasVector dimension)
    (state : RunState World) :
    let indexing := indexItems (.standard e v path wait) size dimension items state
    SavingEnds path dimension items state.files indexing.outcome indexing.state ∧
      indexing.state.dimension = state.dimension := by
  have started : (Services.standard e v path wait).startIndex dimension state =
      (.ok (), { state with builder := ⟨some dimension, [], false⟩ }) := by
    simp [Services.standard, IndexBuilder.start, Nat.ne_of_gt positive, RunState.updateBuilder]
  have fit : ∀ batch ∈ batches size (items.filterMap Item.vector),
      ∀ v ∈ batch, v.length = dimension := by
    intro batch among v inside
    obtain ⟨item, member, stands⟩ := List.mem_filterMap.mp (mem_batches among inside)
    obtain ⟨vector, same, length⟩ := vectors item member
    cases same.symm.trans stands
    exact length
  obtain ⟨events, added⟩ := addBatches_standard e v path wait items.length
    (batches size (items.filterMap Item.vector)) []
    { state with builder := ⟨some dimension, [], false⟩ } rfl fit
  rw [List.length_nil, List.nil_append, batches_flatten] at added
  simp only [indexItems, vectorsOf_of_vectors dimension items vectors, indexVectors, started, added]
  exact saveItems_standard e v path wait items _
    { state with builder := ⟨some dimension, items.filterMap Item.vector, false⟩ } rfl

end Standard

/-- Vectors of items and what a builder stores for them, in order. -/
theorem fullBuilder_aligned {dimension : Nat} {items : List Item}
    (vectors : ∀ item ∈ items, item.HasVector dimension) :
    Forall₂ (fun item stored => ∃ vector, item.vector = some vector ∧
      stored = Embedding.normalize vector) items (fullBuilder dimension items).vectors := by
  unfold fullBuilder
  induction items with
  | nil => exact .nil
  | cons item rest ih =>
    obtain ⟨vector, stands, -⟩ := vectors item List.mem_cons_self
    have others := ih fun other member => vectors other (List.mem_cons_of_mem item member)
    simp only [List.filterMap_cons, stands, List.map_cons]
    exact .cons ⟨vector, stands, rfl⟩ others

theorem vectors_of_aligned {items : List Item} {stored : List Embedding}
    (aligned : Forall₂ (fun item stored => ∃ vector, item.vector = some vector ∧
      stored = Embedding.normalize vector) items stored) :
    stored = (items.filterMap Item.vector).map Embedding.normalize := by
  induction aligned with
  | nil => rfl
  | cons first _ ih =>
    obtain ⟨vector, stands, rfl⟩ := first
    rw [List.filterMap_cons, stands, ih, List.map_cons]

namespace Pipeline

variable {World : Type}

/-- The last stage, for items that have vectors of one dimension: only a write to a file can make it
fail. Otherwise the builder's vectors and the entries follow the items one by one, the entries are
read back from the table's file as long as a machine word counts them, and the index is still in a
file of its own. -/
theorem indexing_aligns_vectors_and_entries (discovery : Discovery) (trees : TreeSource)
    (settings : StageSettings) (e : Enricher World) (v : Vectorizer World) (path : Path)
    (wait : Nat → World → World) (results : StageResults) (state : RunState World)
    (embedded : EmbeddedItems) (items : List Item) (found : results.embedded = some embedded)
    (held : embedded.items = some items) (positive : 0 < embedded.dimension)
    (vectors : ∀ item ∈ items, item.HasVector embedded.dimension) :
    let p : Pipeline (RunState World) := ⟨discovery, trees, settings, .standard e v path wait⟩
    let step := p.runStage .indexing results state
    let full : IndexBuilder :=
      ⟨some embedded.dimension, (items.filterMap Item.vector).map Embedding.normalize, true⟩
    match step.outcome with
    | .error fault =>
      (∃ reason, fault = .service .indexing (.file reason) ∧
        full.save path state.files = (.error (.file reason), step.state.files)) ∨
      (∃ reason, fault = .write (entriesPath path) reason ∧
        full.save path state.files = (.ok (), step.state.files) ∧
        step.state.files.write (entriesPath path)
          (IndexEntry.tableText (IndexEntry.ofItems items)).toUTF8 = .error reason)
    | .ok () =>
      step.state.builder.dimension = some embedded.dimension ∧
      step.state.builder.normalized = true ∧
      Forall₂ (fun item stored => ∃ vector, item.vector = some vector ∧
        stored = Embedding.normalize vector) items step.state.builder.vectors ∧
      ∃ saved, step.results.saved = some saved ∧
        saved.entries.length = items.length ∧
        (∀ (i : Nat) (item : Item), items[i]? = some item →
          saved.entries[i]? =
            some (⟨i, item.id, item.kind, item.language, item.filePath⟩ : IndexEntry)) ∧
        (items.length ≤ Json.largestWord →
          loadEntries step.state.files saved.entriesPath = .ok saved.entries) ∧
        saved.indexPath = path ∧
        saved.entriesPath.components ≠ saved.indexPath.components ∧
        step.state.files.read saved.indexPath =
          .ok (FlatIndex.toText ⟨embedded.dimension, true, step.state.builder.vectors⟩).toUTF8 := by
  intro p step full
  have ends := (indexItems_standard e v path wait positive settings.indexBatchSize vectors state).1
  have same : step = (indexItems p.services settings.indexBatchSize embedded.dimension items
      state).store results .saved := p.runIndexing_of_held results state items embedded found held
  cases outcome : (indexItems p.services settings.indexBatchSize embedded.dimension items
      state).outcome with
  | error fault =>
    rw [StageRun.store_of_error _ _ _ fault outcome] at same
    rw [outcome] at ends
    rw [same]
    cases ends with
    | unsaved reason _ refused => exact .inl ⟨reason, rfl, refused⟩
    | untabled reason _ saved refused => exact .inr ⟨reason, rfl, saved, refused⟩
  | ok output =>
    rw [StageRun.store_of_ok _ _ _ output outcome] at same
    rw [outcome] at ends
    rw [same]
    cases ends with
    | complete made written _ _ named tabled entries builder index table =>
      -- The table is written last, to another file, so the index is still what was saved.
      obtain ⟨kept, stored, apart⟩ := read_index_and_table index table
      refine ⟨by rw [builder]; rfl, by rw [builder]; rfl,
        by rw [builder]; exact fullBuilder_aligned vectors, output, rfl, ?_, ?_, ?_, named, ?_, ?_⟩
      · rw [entries, IndexEntry.ofItems, List.length_map, List.length_zipIdx]
      · intro i item stands
        rw [entries, IndexEntry.ofItems_get, stands]
        rfl
      · intro countable
        rw [tabled, entries]
        refine loadEntries_written ?_ stored
        intro entry member
        have below := IndexEntry.ordinal_lt member
        omega
      · rw [tabled, named]
        exact apart
      · rw [named, builder]
        exact kept

theorem items_indexed_in_batches :
    let item (name : String) (line : Nat) (vector : Embedding) : Item :=
      { id := deriveId "main" name line, kind := .function, name := name, language := .go,
        filePath := "main.go", code := "func", vector := some vector }
    let items := [item "f" 1 [1, 0], item "g" 4 [0, 2], item "h" 9 [3, 4]]
    let embedded : EmbeddedItems := ⟨some items, 2, {}, ⟨0, 0⟩⟩
    let silent : Provider Unit := ⟨"silent", false, fun _ world => (.error .rateLimited, world),
      fun _ world => (.error .rateLimited, world)⟩
    let p : Pipeline (RunState Unit) := ⟨{ root := .ofString "." }, fun _ _ => none,
      { indexBatchSize := 2 },
      .standard ⟨silent, 0⟩ ⟨silent, none⟩ (.ofString ".strata/index.json") fun _ world => world⟩
    let state : RunState Unit :=
      { world := (), files := {}, time := ⟨0, 0⟩, builder := ⟨some 3, [[0, 0, 0]], true⟩ }
    let step := p.runStage .indexing { embedded := some embedded } state
    0 < embedded.dimension ∧ (∀ other ∈ items, Item.HasVector embedded.dimension other) ∧
      p.settings.indexBatchSize < items.length ∧ step.state.builder.dimension = some 2 ∧
      step.state.builder.vectors = [[1, 0], [0, 2], [3, 4]].map Embedding.normalize ∧
      ∃ saved, step.results.saved = some saved ∧
        saved.entries = [⟨0, "main.f_L1", .function, .go, "main.go"⟩,
          ⟨1, "main.g_L4", .function, .go, "main.go"⟩, ⟨2, "main.h_L9", .function, .go, "main.go"⟩] ∧
        loadEntries step.state.files saved.entriesPath = .ok saved.entries := by
  intro item items embedded silent p state step
  have positive : 0 < embedded.dimension := by decide
  have vectors : ∀ other ∈ items, Item.HasVector embedded.dimension other := by
    intro other member
    rcases List.mem_cons.mp member with rfl | member
    · exact ⟨_, rfl, rfl⟩
    rcases List.mem_cons.mp member with rfl | member
    · exact ⟨_, rfl, rfl⟩
    rw [List.mem_singleton.mp member]
    exact ⟨_, rfl, rfl⟩
  have aligned := indexing_aligns_vectors_and_entries p.discovery p.trees p.settings ⟨silent, 0⟩
    ⟨silent, none⟩ (.ofString ".strata/index.json") (fun _ world => world)
    { embedded := some embedded } state embedded items rfl rfl positive vectors
  dsimp only at aligned
  cases outcome : step.outcome with
  | error fault =>
    rw [outcome] at aligned
    rcases aligned with ⟨reason, -, refused⟩ | ⟨reason, -, saved, refused⟩
    · cases congrArg Prod.fst refused
    · have left := congrArg Prod.snd saved
      dsimp only at left
      rw [← left] at refused
      cases refused
  | ok =>
    rw [outcome] at aligned
    obtain ⟨dimension, -, stored, saved, made, length, entries, loads, -⟩ := aligned
    have normalized : step.state.builder.vectors =
        [[1, 0], [0, 2], [3, 4]].map Embedding.normalize := vectors_of_aligned stored
    obtain ⟨first, second, third, whole⟩ := List.length_eq_three.mp length
    rw [whole] at entries
    refine ⟨positive, vectors, by decide, dimension, normalized, saved, made, ?_, loads (by decide)⟩
    cases entries 0 _ rfl
    cases entries 1 _ rfl
    cases entries 2 _ rfl
    rw [whole]
    rfl

end Pipeline

end CodeAtlas
