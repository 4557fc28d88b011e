import CodeAtlas.Config.Load
import CodeAtlas.Proofs.Pipeline.Preserved
import CodeAtlas.Proofs.Pipeline.Reachable
import CodeAtlas.Proofs.Pipeline.Saving

/-!
Runs of all stages with the services a configuration asks for. Each stage leaves what the next one
needs, so that nothing but the outside world ends a run early: the project's files, the start of the
vectorizer, and the files of the index.
-/
namespace CodeAtlas

open List (Forall₂)

def Item.declared (item : Item) : Item :=
  { item with dependencies := [], description := none, summary := none, tags := none,
              vector := none }

theorem Item.Links.declared {before after : Item} (links : before.Links after) :
    after.declared = before.declared := by
  obtain ⟨found, rfl⟩ := links
  rfl

theorem Item.Describes.declared {before after : Item} (describes : before.Describes after) :
    after.declared = before.declared := by
  obtain ⟨e, rfl⟩ := describes
  rfl

theorem Item.Embeds.declared {dimension : Nat} {before after : Item}
    (embeds : Item.Embeds dimension before after) : after.declared = before.declared := by
  obtain ⟨vector, -, rfl⟩ := embeds
  rfl

theorem declared_of_bare {item : Item}
    (bare : item.dependencies = [] ∧ item.Undescribed ∧ item.vector = none) :
    item.declared = item := by
  obtain ⟨id, kind, name, language, filePath, code, dependencies, description, summary, tags,
    vector, metadata⟩ := item
  obtain ⟨rfl, ⟨rfl, rfl, rfl⟩, rfl⟩ := bare
  rfl

theorem map_declared_of_bare {items : List Item}
    (bare : ∀ item ∈ items, item.dependencies = [] ∧ item.Undescribed ∧ item.vector = none) :
    items.map Item.declared = items := by
  induction items with
  | nil => rfl
  | cons item rest ih =>
    have others := ih fun other member => bare other (List.mem_cons_of_mem item member)
    rw [List.map_cons, others, declared_of_bare (bare item List.mem_cons_self)]

theorem extract_cases {State : Type} (d : Discovery) (trees : TreeSource) (s : Services State)
    (state : State) :
    (d.extract trees s state).state = state ∧
      ((∃ reason, (d.extract trees s state).outcome = .error (.discovery reason) ∧
          (d.canonicalRoot (s.files state) = .error reason ∨
            d.resolve (s.files state) = .error reason)) ∨
        ∃ found items, (d.extract trees s state).outcome = .ok found ∧
          found.items = some items) := by
  unfold Discovery.extract
  dsimp only
  cases root : d.canonicalRoot (s.files state) with
  | error reason => exact ⟨rfl, .inl ⟨reason, rfl, .inl rfl⟩⟩
  | ok path =>
    cases resolved : d.resolve (s.files state) with
    | error reason => exact ⟨rfl, .inl ⟨reason, rfl, .inr rfl⟩⟩
    | ok paths => exact ⟨rfl, .inr ⟨_, _, rfl, rfl⟩⟩

def StageResults.Completes (results : StageResults) (extracted : List Item) : Prop :=
  ∃ embedded items, results.embedded = some embedded ∧ embedded.items = some items ∧
    items.map Item.declared = extracted ∧
    ∀ item ∈ items, item.Described ∧ item.HasVector embedded.dimension

namespace Config

section Run

variable {World : Type} (c : Config) (provider : Provider World)

/-- What may end a run early, and the state it leaves: an operation on the outside world that
failed. -/
inductive Stopped (files : FileTree) (left : RunState World) : PipelineFault → Prop
  | discovery (reason : DiscoveryFault)
      (failed : c.project.discovery.canonicalRoot files = .error reason ∨
        c.project.discovery.resolve files = .error reason) :
    Stopped files left (.discovery reason)
  | vectorizer (reason : ServiceFault) (before : VectorizerState World)
      (failed : Vectorizer.start ⟨provider, c.vectorization.dimension⟩ before =
        (.error reason, ⟨left.dimension, left.world⟩)) :
    Stopped files left (.service .vectorization reason)
  | index (reason : FileFault) (builder : IndexBuilder)
      (failed : builder.save c.indexPath files = (.error (.file reason), left.files)) :
    Stopped files left (.service .indexing (.file reason))
  | table (reason : FileFault) (builder : IndexBuilder) (entries : List IndexEntry)
      (saved : builder.save c.indexPath files = (.ok (), left.files))
      (failed : left.files.write (entriesPath c.indexPath)
        (IndexEntry.tableText entries).toUTF8 = .error reason) :
    Stopped files left (.write (entriesPath c.indexPath) reason)

structure Ends (files : FileTree) (extracted : List Item) (step : StageStep (RunState World)) :
    Prop where
  dimension : step.state.dimension ≠ some 0
  stopped : ∀ fault, step.outcome = .error fault → c.Stopped provider files step.state fault
  completed : step.outcome = .ok () → step.results.Completes extracted

variable (trees : TreeSource) (wait : Nat → World → World) {files : FileTree}
  {extracted : List Item} {results : StageResults} {state : RunState World}

theorem ends_of_stage {stage : Stage} {rest : List Stage} {next : StageResults}
    {events : List ProgressEvent} {after : RunState World}
    (step : (c.pipeline trees provider wait).runStage stage results state =
      ⟨.ok (), next, events, after⟩)
    (ends : c.Ends provider files extracted
      ((c.pipeline trees provider wait).runStages rest next after)) :
    c.Ends provider files extracted
      ((c.pipeline trees provider wait).runStages (stage :: rest) results state) := by
  simp only [Pipeline.runStages, step]
  exact ⟨ends.dimension, ends.stopped, ends.completed⟩

theorem ends_of_fault {stage : Stage} {rest : List Stage} {left : StageResults}
    {events : List ProgressEvent} {after : RunState World} {fault : PipelineFault}
    (step : (c.pipeline trees provider wait).runStage stage results state =
      ⟨.error fault, left, events, after⟩)
    (fixed : after.dimension ≠ some 0) (stopped : c.Stopped provider files after fault) :
    c.Ends provider files extracted
      ((c.pipeline trees provider wait).runStages (stage :: rest) results state) := by
  simp only [Pipeline.runStages, step]
  refine ⟨fixed, ?_, ?_⟩
  · intro other same
    cases same
    exact stopped
  · intro same
    cases same

theorem configured_of_valid (valid : c.validate = .ok c) : c.vectorization.dimension ≠ some 0 := by
  intro zero
  have checked : c.problem? = none := by
    unfold validate at valid
    split at valid
    · assumption
    · cases valid
  unfold problem? at checked
  simp only [zero, if_true] at checked
  split_ifs at checked

theorem services_preserve (files : FileTree) (valid : c.validate = .ok c) :
    (c.services provider wait).Preserves (RunState.Steady files) :=
  standard_preserves _ ⟨provider, c.vectorization.dimension⟩ (c.configured_of_valid valid) _ wait
    files

/-! From the last stage back to the first -/

theorem indexing_ends (steady : state.Steady files) (completes : results.Completes extracted)
    (positive : ∀ embedded, results.embedded = some embedded → 0 < embedded.dimension) :
    c.Ends provider files extracted
      ((c.pipeline trees provider wait).runStages [.indexing] results state) := by
  obtain ⟨embedded, items, found, held, declared, layered⟩ := completes
  have vectors : ∀ item ∈ items, item.HasVector embedded.dimension :=
    fun item member => (layered item member).2
  obtain ⟨ends, kept⟩ := indexItems_standard ⟨provider, c.enrichment.maxCodeChars⟩
    ⟨provider, c.vectorization.dimension⟩ c.indexPath wait (positive embedded found)
    c.settings.indexBatchSize vectors state
  have step := (c.pipeline trees provider wait).runIndexing_of_held results state items embedded
    found held
  have fixed : (indexItems (c.services provider wait) c.settings.indexBatchSize
      embedded.dimension items state).state.dimension ≠ some 0 := by
    rw [services, kept]
    exact steady.dimension
  rw [steady.files] at ends
  cases outcome : (indexItems (c.services provider wait) c.settings.indexBatchSize
      embedded.dimension items state).outcome with
  | error fault =>
    rw [pipeline, StageRun.store_of_error _ _ _ fault outcome] at step
    rw [← services, outcome] at ends
    refine c.ends_of_fault provider trees wait step fixed ?_
    cases ends with
    | unsaved reason _ refused => exact .index reason _ refused
    | untabled reason _ saved refused => exact .table reason _ _ saved refused
  | ok output =>
    rw [pipeline, StageRun.store_of_ok _ _ _ output outcome] at step
    refine c.ends_of_stage provider trees wait step ⟨fixed, ?_, ?_⟩
    · intro fault same
      cases same
    · intro _
      exact ⟨embedded, items, found, held, declared, layered⟩

theorem vectorization_ends (valid : c.validate = .ok c) (steady : state.Steady files)
    {items : List Item} (held : results.heldItems? .enrichment = some items)
    (declared : items.map Item.declared = extracted)
    (described : ∀ item ∈ items, item.Described) :
    c.Ends provider files extracted
      ((c.pipeline trees provider wait).runStages [.vectorization, .indexing] results state) := by
  have preserves := c.services_preserve provider wait files valid
  have kept := preserves.startVectors state steady
  rcases start : (c.services provider wait).startVectors state with ⟨reason | dimension, after⟩
  · rw [start] at kept
    have step := (c.pipeline trees provider wait).runVectorization_of_fault results state items held
      reason after start
    refine c.ends_of_fault provider trees wait step kept.dimension
      (.vectorizer reason ⟨state.dimension, state.world⟩ ?_)
    have answer : (Vectorizer.start ⟨provider, c.vectorization.dimension⟩
        ⟨state.dimension, state.world⟩).1 = .error reason := congrArg Prod.fst start
    have left : ((c.services provider wait).startVectors state).2 = after :=
      congrArg Prod.snd start
    rw [← left]
    exact Prod.ext answer rfl
  · rw [start] at kept
    have step := (c.pipeline trees provider wait).runVectorization_of_held results state items held
      dimension after start
    have positive : 0 < dimension :=
      (Vectorizer.start_positive ⟨provider, c.vectorization.dimension⟩
        (c.configured_of_valid valid) ⟨state.dimension, state.world⟩ steady.dimension).2 dimension
        (congrArg Prod.fst start)
    obtain ⟨output, embedded, made, rfl, lies, embeds⟩ := embedItems_embeds
      (c.services provider wait) c.settings.vectorizationBatchSize
      c.settings.vectorizationDelayMillis dimension items after
    rw [pipeline, StageRun.store_of_ok _ _ _ output made] at step
    refine c.ends_of_stage provider trees wait step ?_
    refine c.indexing_ends provider trees wait (preserves.embedItems _ _ _ _ _ kept) ?_ ?_
    · refine ⟨output, embedded, rfl, lies, ?_, ?_⟩
      · rw [← declared]
        exact map_eq_of_forall embeds fun _ _ each => each.declared
      · intro item member
        obtain ⟨before, inside, vector, length, rfl⟩ := mem_of_forall embeds item member
        exact ⟨described before inside, vector, rfl, length⟩
    · intro other same
      cases same
      exact positive

theorem enrichment_ends (valid : c.validate = .ok c) (steady : state.Steady files)
    {items : List Item} (held : results.heldItems? .dependencies = some items)
    (declared : items.map Item.declared = extracted) :
    c.Ends provider files extracted ((c.pipeline trees provider wait).runStages
      [.enrichment, .vectorization, .indexing] results state) := by
  have preserves := c.services_preserve provider wait files valid
  have step := (c.pipeline trees provider wait).runEnrichment_of_held results state items held
  obtain ⟨output, described, made, lies, describes⟩ := describeItems_describes
    (c.services provider wait) c.settings.enrichmentBatchSize c.settings.enrichmentDelayMillis
    items state
  rw [pipeline, StageRun.store_of_ok _ _ _ output made] at step
  refine c.ends_of_stage provider trees wait step ?_
  refine c.vectorization_ends provider trees wait valid
    (preserves.describeItems _ _ _ _ steady) lies ?_ ?_
  · rw [← declared]
    exact map_eq_of_forall describes fun _ _ each => each.declared
  · intro item member
    obtain ⟨before, -, e, rfl⟩ := mem_of_forall describes item member
    exact ⟨rfl, rfl, rfl⟩

theorem dependencies_ends (valid : c.validate = .ok c) (steady : state.Steady files)
    {items : List Item} (held : results.heldItems? .parsing = some items)
    (declared : items.map Item.declared = extracted) :
    c.Ends provider files extracted ((c.pipeline trees provider wait).runStages
      [.dependencies, .enrichment, .vectorization, .indexing] results state) := by
  have preserves := c.services_preserve provider wait files valid
  have step := (c.pipeline trees provider wait).runDependencies_of_held results state items held
  obtain ⟨output, linked, made, lies, links⟩ := linkItems_links (c.services provider wait) items
    state
  rw [pipeline, StageRun.store_of_ok _ _ _ output made] at step
  refine c.ends_of_stage provider trees wait step ?_
  refine c.enrichment_ends provider trees wait valid (preserves.linkItems _ _ steady) lies ?_
  rw [← declared]
  exact map_eq_of_forall links fun _ _ each => each.declared

end Run

/-- A run with a valid configuration and the services it asks for, whatever its provider answers:
only the project's files, the start of the vectorizer and the files of the index can end it early.
Otherwise the items that were extracted are all there in their order, with nothing about their
declarations changed, a description, a summary, tags and a vector of the dimension. A dimension the
vectorizer has fixed is positive before the run, as after every run. -/
theorem valid_run_completes_every_item {World : Type} (c : Config) (valid : c.validate = .ok c)
    (trees : TreeSource) (provider : Provider World) (wait : Nat → World → World)
    (state : RunState World) (fixed : state.dimension ≠ some 0) :
    let p := c.pipeline trees provider wait
    let done := p.run state
    done.state.dimension ≠ some 0 ∧
      match done.outcome with
      | .error fault => c.Stopped provider state.files done.state fault
      | .ok results =>
        ∃ found extracted,
          (p.discovery.extract p.trees p.services state).outcome = .ok found ∧
          found.items = some extracted ∧ results.Completes extracted := by
  intro p done
  obtain ⟨same, failed | found⟩ := extract_cases p.discovery p.trees p.services state
  · obtain ⟨reason, outcome, cause⟩ := failed
    have step : p.runStage .parsing {} state = ⟨.error (.discovery reason), {},
        (p.discovery.extract p.trees p.services state).events, state⟩ := by
      rw [Pipeline.runStage, Pipeline.runParsing,
        StageRun.store_of_error _ _ _ (.discovery reason) outcome, same]
    have stops : done = ⟨.error (.discovery reason),
        (p.discovery.extract p.trees p.services state).events, state⟩ := by
      simp only [done, Pipeline.run, Stage.all, Pipeline.runStages, step]
      rfl
    rw [stops]
    exact ⟨fixed, .discovery reason cause⟩
  · obtain ⟨found, extracted, outcome, items⟩ := found
    have step : p.runStage .parsing {} state = ⟨.ok (), { extracted := some found },
        (p.discovery.extract p.trees p.services state).events, state⟩ := by
      rw [Pipeline.runStage, Pipeline.runParsing, StageRun.store_of_ok _ _ _ found outcome, same]
      rfl
    have bare := extract_wellLayered _ _ _ _ found outcome extracted items
    have ends : c.Ends provider state.files extracted (p.runStages Stage.all {} state) :=
      c.ends_of_stage provider trees wait step
        (c.dependencies_ends provider trees wait valid ⟨rfl, fixed⟩ items
          (map_declared_of_bare bare))
    refine ⟨ends.dimension, ?_⟩
    have finished : done.outcome = (p.runStages Stage.all {} state).outcome.map
        fun _ => (p.runStages Stage.all {} state).results := rfl
    cases final : (p.runStages Stage.all {} state).outcome with
    | error fault =>
      rw [finished, final]
      exact ends.stopped fault final
    | ok =>
      rw [finished, final]
      exact ⟨found, extracted, outcome, items, ends.completed final⟩

theorem two_files_complete :
    let c : Config :=
      { project := { selected := [.ofString "main.go", .ofString "area.go"] }
        vectorization := { dimension := some 3 } }
    let silent : Provider Unit := ⟨"silent", true, fun _ world => (.error .rateLimited, world),
      fun _ world => (.error .rateLimited, world)⟩
    let trees : TreeSource := fun _ _ => none
    let state : RunState Unit :=
      { world := (), time := ⟨0, 0⟩
        files := .mk [(["main.go".toList], .file "func f() int\nfunc g() int".toUTF8),
          (["area.go".toList], .file "func area() int".toUTF8)] [] }
    let p := c.pipeline trees silent fun _ world => world
    c.validate = .ok c ∧ state.dimension ≠ some 0 ∧
      ∃ results found extracted, (p.run state).outcome = .ok results ∧
        (p.discovery.extract p.trees p.services state).outcome = .ok found ∧
        found.items = some extracted ∧
        extracted.map Item.id = ["area.area_L1", "main.f_L1", "main.g_L2"] ∧
        results.Completes extracted := by
  intro c silent trees state p
  have valid : c.validate = .ok c := by decide
  have fixed : state.dimension ≠ some 0 := by decide
  refine ⟨valid, fixed, ?_⟩
  have ends := (c.valid_run_completes_every_item valid trees silent (fun _ world => world) state
    fixed).2
  cases outcome : (p.run state).outcome with
  | error fault =>
    rw [outcome] at ends
    cases ends with
    | discovery reason failed =>
      rcases failed with root | resolved
      · cases root
      · cases resolved
    | vectorizer reason before failed =>
      have refused := congrArg Prod.fst failed
      obtain ⟨dimension, world⟩ := before
      cases dimension <;> cases refused
    | index reason builder failed =>
      have refused := congrArg Prod.fst failed
      obtain ⟨dimension | dimension, vectors, normalized⟩ := builder
      · cases refused
      · simp only [c, state] at refused
        cases refused
    | table reason builder entries saved failed =>
      have left := congrArg Prod.snd saved
      have kept := congrArg Prod.fst saved
      dsimp only at left
      obtain ⟨dimension | dimension, vectors, normalized⟩ := builder
      · cases kept
      · rw [← left] at failed
        simp only [c, state] at failed
        cases failed
  | ok results =>
    rw [outcome] at ends
    obtain ⟨found, extracted, made, items, completes⟩ := ends
    have shown : ((p.discovery.extract p.trees p.services state).outcome.toOption.bind
        ExtractedItems.items).map (·.map Item.id) =
          some ["area.area_L1", "main.f_L1", "main.g_L2"] := by decide +kernel
    rw [made] at shown
    simp only [Except.toOption, Option.bind_some, items, Option.map_some] at shown
    exact ⟨results, found, extracted, rfl, made, items, Option.some.inj shown, completes⟩

end Config

end CodeAtlas
