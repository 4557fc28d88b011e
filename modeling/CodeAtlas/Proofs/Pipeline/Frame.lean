import CodeAtlas.Pipeline.Run

/-!
What running one stage does to the results it is given: nothing when it fails, and otherwise a new
output of its own, with the items gone from the output they were taken from.
-/
namespace CodeAtlas

def Stage.takesFrom? : Stage → Option Stage
  | dependencies => some parsing
  | enrichment => some dependencies
  | vectorization => some enrichment
  | parsing | indexing => none

namespace StageResults

variable (r : StageResults)

theorem output_insert (output : StageOutput) (other : Stage) :
    (r.insert output).output? other =
      if other = output.stage then some output else r.output? other := by
  cases output <;> cases other <;> rfl

theorem output_withoutItems (source other : Stage) :
    (r.withoutItems source).output? other =
      if other = source then (r.output? other).map StageOutput.withoutItems
      else r.output? other := by
  obtain ⟨extracted, linked, described, embedded, saved⟩ := r
  cases source with
  | parsing => cases extracted <;> cases other <;> rfl
  | dependencies => cases linked <;> cases other <;> rfl
  | enrichment => cases described <;> cases other <;> rfl
  | vectorization => cases embedded <;> cases other <;> rfl
  | indexing => cases saved <;> cases other <;> rfl

theorem heldItems_none_iff (source : Stage) :
    r.heldItems? source = none ↔
      r.output? source = none ∨
        ∃ output, r.output? source = some output ∧ output.items? = none := by
  cases found : r.output? source with
  | none => simp [heldItems?, found]
  | some output => simp [heldItems?, found]

theorem items_of_held (stage source : Stage) (items : List Item)
    (held : r.heldItems? source = some items) : r.items stage source = .ok items := by
  simp only [StageResults.items, held]

theorem items_of_missing (stage source : Stage) (missing : r.heldItems? source = none) :
    r.items stage source = .error (.missingPrerequisite stage source "items") := by
  simp only [StageResults.items, missing]

theorem take_of_held (stage source : Stage) (items : List Item)
    (held : r.heldItems? source = some items) :
    r.take stage source = .ok (items, r.withoutItems source) := by
  simp only [take, r.items_of_held stage source items held]

theorem take_of_missing (stage source : Stage) (missing : r.heldItems? source = none) :
    r.take stage source = .error (.missingPrerequisite stage source "items") := by
  simp only [take, r.items_of_missing stage source missing]

def handedOver (stage : Stage) : StageResults :=
  match stage.takesFrom? with
  | some source => r.withoutItems source
  | none => r

theorem output_handedOver (stage other : Stage) :
    (r.handedOver stage).output? other =
      if stage.takesFrom? = some other then (r.output? other).map StageOutput.withoutItems
      else r.output? other := by
  cases stage <;> cases other <;> simp [handedOver, Stage.takesFrom?, output_withoutItems]

end StageResults

namespace StageRun

variable {State α : Type}

theorem store_of_ok (run : StageRun State α) (results : StageResults) (output : α → StageOutput)
    (made : α) (succeeded : run.outcome = .ok made) :
    run.store results output = ⟨.ok (), results.insert (output made), run.events, run.state⟩ := by
  simp only [store, succeeded]

theorem store_of_error (run : StageRun State α) (results : StageResults)
    (output : α → StageOutput) (fault : PipelineFault) (failed : run.outcome = .error fault) :
    run.store results output = ⟨.error fault, results, run.events, run.state⟩ := by
  simp only [store, failed]

end StageRun

inductive StageStep.Moves {State : Type} (stage : Stage) (results : StageResults) :
    StageStep State → Prop
  | failed (fault : PipelineFault) (events : List ProgressEvent) (state : State) :
    Moves stage results ⟨.error fault, results, events, state⟩
  | stored (output : StageOutput) (events : List ProgressEvent) (state : State)
      (own : output.stage = stage) :
    Moves stage results ⟨.ok (), (results.handedOver stage).insert output, events, state⟩

namespace Pipeline

variable {State : Type} (p : Pipeline State) (results : StageResults) (state : State)

open StageStep (Moves)

/-! What each stage does with the items it finds -/

section Stages

variable (items : List Item)

theorem runDependencies_of_missing (missing : results.heldItems? .parsing = none) :
    p.runDependencies results state =
      .failed (.missingPrerequisite .dependencies .parsing "items") results state := by
  simp only [runDependencies, results.take_of_missing .dependencies .parsing missing]

theorem runDependencies_of_held (held : results.heldItems? .parsing = some items) :
    p.runDependencies results state =
      (linkItems p.services items state).store (results.withoutItems .parsing) .linked := by
  simp only [runDependencies, results.take_of_held .dependencies .parsing items held]

theorem runEnrichment_of_missing (missing : results.heldItems? .dependencies = none) :
    p.runEnrichment results state =
      .failed (.missingPrerequisite .enrichment .dependencies "items") results state := by
  simp only [runEnrichment, results.take_of_missing .enrichment .dependencies missing]

theorem runEnrichment_of_held (held : results.heldItems? .dependencies = some items) :
    p.runEnrichment results state =
      (describeItems p.services p.settings.enrichmentBatchSize p.settings.enrichmentDelayMillis
        items state).store (results.withoutItems .dependencies) .described := by
  simp only [runEnrichment, results.take_of_held .enrichment .dependencies items held]

theorem runVectorization_of_missing (missing : results.heldItems? .enrichment = none) :
    p.runVectorization results state =
      .failed (.missingPrerequisite .vectorization .enrichment "items") results state := by
  simp only [runVectorization, results.items_of_missing .vectorization .enrichment missing]

/-- The dimension is asked for while the items still lie in the results. -/
theorem runVectorization_of_fault (held : results.heldItems? .enrichment = some items)
    (fault : ServiceFault) (after : State)
    (started : p.services.startVectors state = (.error fault, after)) :
    p.runVectorization results state =
      .failed (.service .vectorization fault) results after := by
  simp only [runVectorization, results.items_of_held .vectorization .enrichment items held,
    started]

theorem runVectorization_of_held (held : results.heldItems? .enrichment = some items)
    (dimension : Nat) (after : State)
    (started : p.services.startVectors state = (.ok dimension, after)) :
    p.runVectorization results state =
      (embedItems p.services p.settings.vectorizationBatchSize
        p.settings.vectorizationDelayMillis dimension items after).store
        (results.withoutItems .enrichment) .embedded := by
  simp only [runVectorization, results.items_of_held .vectorization .enrichment items held,
    results.take_of_held .vectorization .enrichment items held, started]

theorem runIndexing_of_missing (missing : results.heldItems? .vectorization = none) :
    p.runIndexing results state =
      .failed (.missingPrerequisite .indexing .vectorization "items") results state := by
  simp only [runIndexing, results.items_of_missing .indexing .vectorization missing]

theorem runIndexing_of_held (embedded : EmbeddedItems) (found : results.embedded = some embedded)
    (held : embedded.items = some items) :
    p.runIndexing results state =
      (indexItems p.services p.settings.indexBatchSize embedded.dimension items state).store
        results .saved := by
  have lies : results.heldItems? .vectorization = some items := by
    simp [StageResults.heldItems?, StageResults.output?, found, StageOutput.items?, held]
  simp only [runIndexing, results.items_of_held .indexing .vectorization items lies, found]

end Stages

/-! Results before and after -/

theorem runParsing_moves : Moves .parsing results (p.runParsing results state) := by
  unfold runParsing
  cases outcome : (p.discovery.extract p.trees p.services state).outcome with
  | error fault =>
    rw [StageRun.store_of_error _ _ _ fault outcome]
    exact .failed fault _ _
  | ok made =>
    rw [StageRun.store_of_ok _ _ _ made outcome]
    exact .stored (.extracted made) _ _ rfl

theorem runDependencies_moves : Moves .dependencies results (p.runDependencies results state) := by
  cases held : results.heldItems? .parsing with
  | none =>
    rw [p.runDependencies_of_missing results state held]
    exact .failed _ _ _
  | some items =>
    rw [p.runDependencies_of_held results state items held]
    exact .stored (.linked _) _ _ rfl

theorem runEnrichment_moves : Moves .enrichment results (p.runEnrichment results state) := by
  cases held : results.heldItems? .dependencies with
  | none =>
    rw [p.runEnrichment_of_missing results state held]
    exact .failed _ _ _
  | some items =>
    rw [p.runEnrichment_of_held results state items held]
    exact .stored (.described _) _ _ rfl

theorem runVectorization_moves :
    Moves .vectorization results (p.runVectorization results state) := by
  cases held : results.heldItems? .enrichment with
  | none =>
    rw [p.runVectorization_of_missing results state held]
    exact .failed _ _ _
  | some items =>
    rcases started : p.services.startVectors state with ⟨fault | dimension, after⟩
    · rw [p.runVectorization_of_fault results state items held fault after started]
      exact .failed _ _ _
    · rw [p.runVectorization_of_held results state items held dimension after started]
      exact .stored (.embedded _) _ _ rfl

theorem runIndexing_moves : Moves .indexing results (p.runIndexing results state) := by
  unfold runIndexing
  split
  · exact .failed _ _ _
  · exact .failed _ _ _
  · rename_i items embedded _ _
    cases outcome : (indexItems p.services p.settings.indexBatchSize embedded.dimension items
        state).outcome with
    | error fault =>
      rw [StageRun.store_of_error _ _ _ fault outcome]
      exact .failed fault _ _
    | ok made =>
      rw [StageRun.store_of_ok _ _ _ made outcome]
      exact .stored (.saved made) _ _ rfl

theorem runStage_moves (stage : Stage) : Moves stage results (p.runStage stage results state) := by
  cases stage with
  | parsing => exact p.runParsing_moves results state
  | dependencies => exact p.runDependencies_moves results state
  | enrichment => exact p.runEnrichment_moves results state
  | vectorization => exact p.runVectorization_moves results state
  | indexing => exact p.runIndexing_moves results state

theorem runDependencies_missing_iff :
    (p.runDependencies results state).outcome =
        .error (.missingPrerequisite .dependencies .parsing "items") ↔
      results.heldItems? .parsing = none := by
  cases held : results.heldItems? .parsing with
  | none => simp [p.runDependencies_of_missing results state held, StageStep.failed]
  | some items =>
    simp [p.runDependencies_of_held results state items held, StageRun.store, linkItems]

theorem runEnrichment_missing_iff :
    (p.runEnrichment results state).outcome =
        .error (.missingPrerequisite .enrichment .dependencies "items") ↔
      results.heldItems? .dependencies = none := by
  cases held : results.heldItems? .dependencies with
  | none => simp [p.runEnrichment_of_missing results state held, StageStep.failed]
  | some items =>
    simp [p.runEnrichment_of_held results state items held, StageRun.store, describeItems]

theorem runVectorization_missing_iff :
    (p.runVectorization results state).outcome =
        .error (.missingPrerequisite .vectorization .enrichment "items") ↔
      results.heldItems? .enrichment = none := by
  cases held : results.heldItems? .enrichment with
  | none => simp [p.runVectorization_of_missing results state held, StageStep.failed]
  | some items =>
    rcases started : p.services.startVectors state with ⟨fault | dimension, after⟩
    · simp [p.runVectorization_of_fault results state items held fault after started,
        StageStep.failed]
    · simp [p.runVectorization_of_held results state items held dimension after started,
        StageRun.store, embedItems]

/-- A stage that fails leaves the results as they were. One that succeeds puts its own output among
them and leaves the output whose items it took without these; no other output changes. The items are
missing exactly when the stage before has not run or holds none any more. -/
theorem stage_run_frame (stage : Stage) :
    let step := p.runStage stage results state
    (match step.outcome with
      | .error _ => step.results = results
      | .ok () => ∃ output : StageOutput, output.stage = stage ∧
          ∀ other, step.results.output? other =
            if other = stage then some output
            else if stage.takesFrom? = some other then
              (results.output? other).map StageOutput.withoutItems
            else results.output? other) ∧
    match stage.takesFrom? with
    | none => True
    | some source =>
      step.outcome = .error (.missingPrerequisite stage source "items") ↔
        results.output? source = none ∨
          ∃ output, results.output? source = some output ∧ output.items? = none := by
  intro step
  constructor
  · have moves : Moves stage results step := p.runStage_moves results state stage
    generalize step = step at moves
    cases moves with
    | failed fault events state => rfl
    | stored output events state own =>
      refine ⟨output, own, ?_⟩
      intro other
      rw [StageResults.output_insert, StageResults.output_handedOver, own]
  · cases stage with
    | parsing => exact trivial
    | dependencies =>
      exact (p.runDependencies_missing_iff results state).trans (results.heldItems_none_iff _)
    | enrichment =>
      exact (p.runEnrichment_missing_iff results state).trans (results.heldItems_none_iff _)
    | vectorization =>
      exact (p.runVectorization_missing_iff results state).trans (results.heldItems_none_iff _)
    | indexing => exact trivial

end Pipeline
end CodeAtlas
