import CodeAtlas.Proofs.Pipeline.Layers
import CodeAtlas.Proofs.Pipeline.Parsing

/-!
Results that calls of the stages lead to, in whatever order these are run and however they end. The
items each stage holds have the layers of the stages up to it and no others, so the last stage never
finds an item whose vector is missing or of the wrong length.
-/
namespace CodeAtlas

open List (Forall₂)

def StageOutput.Allows : StageOutput → Item → Prop
  | extracted _, item => item.dependencies = [] ∧ item.Undescribed ∧ item.vector = none
  | linked _, item => item.Undescribed ∧ item.vector = none
  | described _, item => item.Described ∧ item.vector = none
  | embedded output, item => item.Described ∧ item.HasVector output.dimension
  | saved _, _ => True

def StageOutput.WellLayered (output : StageOutput) : Prop :=
  ∀ items, output.items? = some items → ∀ item ∈ items, output.Allows item

def StageResults.WellLayered (r : StageResults) : Prop :=
  ∀ stage output, r.output? stage = some output → output.WellLayered

structure StageCall (State : Type) where
  stage : Stage
  state : State

def Pipeline.resultsAfter {State : Type} (p : Pipeline State) :
    List (StageCall State) → StageResults → StageResults
  | [], results => results
  | call :: rest, results =>
    p.resultsAfter rest (p.runStage call.stage results call.state).results

namespace StageResults

variable {r : StageResults}

theorem wellLayered_empty : WellLayered {} := by
  intro stage output found
  cases stage <;> cases found

theorem WellLayered.insert (layered : r.WellLayered) {output : StageOutput}
    (own : output.WellLayered) : (r.insert output).WellLayered := by
  intro stage other found
  rw [output_insert] at found
  split at found
  · cases found
    exact own
  · exact layered stage other found

theorem withoutItems_wellLayered (output : StageOutput) : output.withoutItems.WellLayered := by
  intro items held
  cases output <;> cases held

theorem WellLayered.withoutItems (layered : r.WellLayered) (source : Stage) :
    (r.withoutItems source).WellLayered := by
  intro stage output found
  rw [output_withoutItems] at found
  split at found
  · obtain ⟨before, -, rfl⟩ := Option.map_eq_some_iff.mp found
    exact withoutItems_wellLayered before
  · exact layered stage output found

theorem output_stage {stage : Stage} {output : StageOutput}
    (found : r.output? stage = some output) : output.stage = stage := by
  cases stage <;> obtain ⟨_, -, rfl⟩ := Option.map_eq_some_iff.mp found <;> rfl

theorem WellLayered.held (layered : r.WellLayered) {stage : Stage} {items : List Item}
    (held : r.heldItems? stage = some items) :
    ∃ output : StageOutput, output.stage = stage ∧ ∀ item ∈ items, output.Allows item := by
  obtain ⟨output, found, lies⟩ := Option.bind_eq_some_iff.mp held
  exact ⟨output, output_stage found, layered stage output found items lies⟩

end StageResults

/-! Items that are extracted -/

theorem itemsIn_bare (files : FileTree) (trees : TreeSource) (time : Timestamp)
    (root path : Path) :
    ∀ item ∈ itemsIn files trees time root path,
      item.dependencies = [] ∧ item.Undescribed ∧ item.vector = none := by
  intro item member
  unfold itemsIn at member
  split at member
  · exact extractItems_bare _ _ _ _ _ item member
  · cases member

theorem extract_wellLayered {State : Type} (d : Discovery) (trees : TreeSource)
    (s : Services State) (state : State) (found : ExtractedItems)
    (extracted : (d.extract trees s state).outcome = .ok found) :
    (StageOutput.extracted found).WellLayered := by
  unfold Discovery.extract at extracted
  dsimp only at extracted
  split at extracted
  · cases extracted
  · cases extracted
  · rename_i root paths _ _
    cases extracted
    intro items held item member
    cases held
    rw [(Harvest.parseAll_gathers _ trees _ root paths).items_eq, List.nil_append] at member
    obtain ⟨path, -, inside⟩ := List.mem_flatMap.mp member
    exact itemsIn_bare _ _ _ _ path item inside

/-! Every stage keeps the layers in order -/

theorem mem_of_forall {α β : Type} {R : α → β → Prop} {before : List α} {after : List β}
    (related : Forall₂ R before after) : ∀ b ∈ after, ∃ a ∈ before, R a b := by
  induction related with
  | nil => intro b member; cases member
  | cons first _ ih =>
    intro b member
    rcases List.mem_cons.mp member with rfl | member
    · exact ⟨_, List.mem_cons_self, first⟩
    · obtain ⟨a, inside, relation⟩ := ih b member
      exact ⟨a, List.mem_cons_of_mem _ inside, relation⟩

namespace Pipeline

variable {State : Type} (p : Pipeline State) {results : StageResults}

theorem runParsing_wellLayered (layered : results.WellLayered) (state : State) :
    (p.runParsing results state).results.WellLayered := by
  unfold runParsing
  cases outcome : (p.discovery.extract p.trees p.services state).outcome with
  | error fault =>
    rw [StageRun.store_of_error _ _ _ fault outcome]
    exact layered
  | ok found =>
    rw [StageRun.store_of_ok _ _ _ found outcome]
    exact layered.insert (extract_wellLayered _ _ _ _ found outcome)

theorem runDependencies_wellLayered (layered : results.WellLayered) (state : State) :
    (p.runDependencies results state).results.WellLayered := by
  cases held : results.heldItems? .parsing with
  | none =>
    rw [p.runDependencies_of_missing results state held]
    exact layered
  | some items =>
    obtain ⟨output, linked, made, lies, links⟩ := linkItems_links p.services items state
    rw [p.runDependencies_of_held results state items held,
      StageRun.store_of_ok _ _ _ output made]
    refine (layered.withoutItems .parsing).insert ?_
    intro taken same item member
    cases lies.symm.trans same
    obtain ⟨before, inside, found, rfl⟩ := mem_of_forall links item member
    obtain ⟨source, own, allowed⟩ := layered.held held
    cases source <;> cases own
    exact (allowed before inside).2

theorem runEnrichment_wellLayered (layered : results.WellLayered) (state : State) :
    (p.runEnrichment results state).results.WellLayered := by
  cases held : results.heldItems? .dependencies with
  | none =>
    rw [p.runEnrichment_of_missing results state held]
    exact layered
  | some items =>
    obtain ⟨output, described, made, lies, describes⟩ := describeItems_describes p.services
      p.settings.enrichmentBatchSize p.settings.enrichmentDelayMillis items state
    rw [p.runEnrichment_of_held results state items held, StageRun.store_of_ok _ _ _ output made]
    refine (layered.withoutItems .dependencies).insert ?_
    intro taken same item member
    cases lies.symm.trans same
    obtain ⟨before, inside, e, rfl⟩ := mem_of_forall describes item member
    obtain ⟨source, own, allowed⟩ := layered.held held
    cases source <;> cases own
    exact ⟨⟨rfl, rfl, rfl⟩, (allowed before inside).2⟩

theorem runVectorization_wellLayered (layered : results.WellLayered) (state : State) :
    (p.runVectorization results state).results.WellLayered := by
  cases held : results.heldItems? .enrichment with
  | none =>
    rw [p.runVectorization_of_missing results state held]
    exact layered
  | some items =>
    rcases started : p.services.startVectors state with ⟨fault | dimension, after⟩
    · rw [p.runVectorization_of_fault results state items held fault after started]
      exact layered
    · obtain ⟨output, embedded, made, rfl, lies, embeds⟩ := embedItems_embeds p.services
        p.settings.vectorizationBatchSize p.settings.vectorizationDelayMillis dimension items after
      rw [p.runVectorization_of_held results state items held _ after started,
        StageRun.store_of_ok _ _ _ output made]
      refine (layered.withoutItems .enrichment).insert ?_
      intro taken same item member
      cases lies.symm.trans same
      obtain ⟨before, inside, vector, length, rfl⟩ := mem_of_forall embeds item member
      obtain ⟨source, own, allowed⟩ := layered.held held
      cases source <;> cases own
      exact ⟨(allowed before inside).1, vector, rfl, length⟩

theorem runIndexing_wellLayered (layered : results.WellLayered) (state : State) :
    (p.runIndexing results state).results.WellLayered := by
  have moves := p.runIndexing_moves results state
  generalize p.runIndexing results state = step at moves
  cases moves with
  | failed fault events state => exact layered
  | stored output events state own =>
    refine layered.insert ?_
    cases output <;> cases own
    intro items held
    cases held

theorem runStage_wellLayered (layered : results.WellLayered) (stage : Stage) (state : State) :
    (p.runStage stage results state).results.WellLayered := by
  cases stage with
  | parsing => exact p.runParsing_wellLayered layered state
  | dependencies => exact p.runDependencies_wellLayered layered state
  | enrichment => exact p.runEnrichment_wellLayered layered state
  | vectorization => exact p.runVectorization_wellLayered layered state
  | indexing => exact p.runIndexing_wellLayered layered state

theorem resultsAfter_wellLayered (calls : List (StageCall State)) (layered : results.WellLayered) :
    (p.resultsAfter calls results).WellLayered := by
  induction calls generalizing results with
  | nil => exact layered
  | cons call rest ih => exact ih (p.runStage_wellLayered layered call.stage call.state)

end Pipeline

/-! Faults of the last stage -/

def PipelineFault.IsExternal : PipelineFault → Prop
  | service _ _ | write _ _ => True
  | _ => False

section External

variable {State : Type} (s : Services State)

theorem addBatches_external (total first : Nat) (batches : List (List Embedding)) (state : State)
    (fault : PipelineFault)
    (failed : (addBatches s total first batches state).outcome = .error fault) :
    fault.IsExternal := by
  induction batches generalizing first state with
  | nil => cases failed
  | cons batch rest ih =>
    rw [addBatches] at failed
    split at failed
    · cases failed
      exact trivial
    · rename_i after _
      dsimp only at failed
      cases others : (addBatches s total (first + batch.length) rest after).outcome with
      | error later =>
        rw [others] at failed
        cases failed
        exact ih _ _ others
      | ok count =>
        rw [others] at failed
        cases failed

theorem saveItems_external (items : List Item) (count : Nat) (state : State)
    (fault : PipelineFault) (failed : (saveItems s items count state).outcome = .error fault) :
    fault.IsExternal := by
  unfold saveItems at failed
  split at failed
  · cases failed
    exact trivial
  · split at failed
    · cases failed
      exact trivial
    · dsimp only at failed
      split at failed <;> cases failed
      exact trivial

theorem indexVectors_external (size dimension : Nat) (items : List Item)
    (vectors : List Embedding) (state : State) (fault : PipelineFault)
    (failed : (indexVectors s size dimension items vectors state).outcome = .error fault) :
    fault.IsExternal := by
  unfold indexVectors at failed
  dsimp only at failed
  split at failed
  · cases failed
    exact trivial
  · split at failed
    · rename_i adding
      cases failed
      exact addBatches_external s _ _ _ _ _ adding
    · exact saveItems_external s _ _ _ _ failed

end External

namespace Pipeline

variable {State : Type} (p : Pipeline State)

theorem runIndexing_accepts {results : StageResults} (layered : results.WellLayered)
    (state : State) (stage : Stage) (defect : VectorDefect) :
    (p.runIndexing results state).outcome ≠ .error (.invalidPrerequisite stage defect) := by
  intro refused
  cases held : results.heldItems? .vectorization with
  | none =>
    rw [p.runIndexing_of_missing results state held] at refused
    cases refused
  | some items =>
    obtain ⟨output, found, lies⟩ := Option.bind_eq_some_iff.mp held
    obtain ⟨embedded, stored, rfl⟩ := Option.map_eq_some_iff.mp found
    have vectors : ∀ item ∈ items, item.HasVector embedded.dimension := by
      intro item member
      exact (layered .vectorization (.embedded embedded) found items lies item member).2
    rw [p.runIndexing_of_held results state items embedded stored lies] at refused
    simp only [indexItems, vectorsOf_of_vectors embedded.dimension items vectors] at refused
    cases outcome : (indexVectors p.services p.settings.indexBatchSize embedded.dimension items
        (items.filterMap Item.vector) state).outcome with
    | ok saved =>
      rw [StageRun.store_of_ok _ _ _ saved outcome] at refused
      cases refused
    | error fault =>
      have external := indexVectors_external _ _ _ _ _ _ _ outcome
      rw [StageRun.store_of_error _ _ _ fault outcome] at refused
      cases refused
      exact external

/-- Whatever stages were run, in whatever order and with whatever outcome: items held by the output
of a stage have the layers of the stages up to it and none of those after, and vectors have the
dimension of their output. So the last stage never refuses an item for its vector. -/
theorem reachable_results_well_layered (calls : List (StageCall State)) :
    (p.resultsAfter calls {}).WellLayered ∧
      ∀ (state : State) (stage : Stage) (defect : VectorDefect),
        (p.runStage .indexing (p.resultsAfter calls {}) state).outcome ≠
          .error (.invalidPrerequisite stage defect) := by
  have layered := p.resultsAfter_wellLayered calls StageResults.wellLayered_empty
  exact ⟨layered, p.runIndexing_accepts layered⟩

end Pipeline
end CodeAtlas
