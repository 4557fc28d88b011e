import CodeAtlas.Pipeline.Describing
import CodeAtlas.Pipeline.Embedding
import CodeAtlas.Pipeline.Indexing
import CodeAtlas.Pipeline.Linking
import CodeAtlas.Pipeline.Parsing

/-!
Runs of single stages on the results of those before them, and of all stages in order. A stage that
fails leaves the results as they were.
-/
namespace CodeAtlas

structure StageSettings where
  enrichmentBatchSize : Nat := 5
  enrichmentDelayMillis : Nat := 1000
  vectorizationBatchSize : Nat := 10
  vectorizationDelayMillis : Nat := 0
  indexBatchSize : Nat := 100
  deriving DecidableEq, Repr

def Config.settings (c : Config) : StageSettings :=
  ⟨c.enrichment.batchSize, c.enrichment.delayMillis, c.vectorization.batchSize,
    c.vectorization.delayMillis, c.index.batchSize⟩

structure Pipeline (State : Type) where
  discovery : Discovery
  trees : TreeSource
  settings : StageSettings
  services : Services State

/-- What running a stage on results does: how it ends, the results it leaves behind, what it reports
on the way, and the state it leaves. -/
structure StageStep (State : Type) where
  outcome : Except PipelineFault Unit
  results : StageResults
  events : List ProgressEvent
  state : State

namespace StageRun

variable {State α : Type}

def store (r : StageRun State α) (results : StageResults) (output : α → StageOutput) :
    StageStep State :=
  match r.outcome with
  | .ok made => ⟨.ok (), results.insert (output made), r.events, r.state⟩
  | .error fault => ⟨.error fault, results, r.events, r.state⟩

end StageRun

def StageStep.failed {State : Type} (fault : PipelineFault) (results : StageResults)
    (state : State) : StageStep State :=
  ⟨.error fault, results, [], state⟩

namespace Pipeline

variable {State : Type}

def runParsing (p : Pipeline State) (results : StageResults) (state : State) : StageStep State :=
  (p.discovery.extract p.trees p.services state).store results .extracted

def runDependencies (p : Pipeline State) (results : StageResults) (state : State) :
    StageStep State :=
  match results.take .dependencies .parsing with
  | .error fault => .failed fault results state
  | .ok (items, rest) => (linkItems p.services items state).store rest .linked

def runEnrichment (p : Pipeline State) (results : StageResults) (state : State) :
    StageStep State :=
  match results.take .enrichment .dependencies with
  | .error fault => .failed fault results state
  | .ok (items, rest) =>
    (describeItems p.services p.settings.enrichmentBatchSize p.settings.enrichmentDelayMillis
      items state).store rest .described

/-- The items are looked up first, and taken only once the dimension is known. -/
def runVectorization (p : Pipeline State) (results : StageResults) (state : State) :
    StageStep State :=
  match results.items .vectorization .enrichment with
  | .error fault => .failed fault results state
  | .ok _ =>
    match p.services.startVectors state with
    | (.error fault, after) => .failed (.service .vectorization fault) results after
    | (.ok dimension, started) =>
      match results.take .vectorization .enrichment with
      | .error fault => .failed fault results started
      | .ok (items, rest) =>
        (embedItems p.services p.settings.vectorizationBatchSize
          p.settings.vectorizationDelayMillis dimension items started).store rest .embedded

def runIndexing (p : Pipeline State) (results : StageResults) (state : State) :
    StageStep State :=
  match results.items .indexing .vectorization, results.embedded with
  | .error fault, _ => .failed fault results state
  | .ok _, none => .failed (.missingPrerequisite .indexing .vectorization "dimension") results state
  | .ok items, some embedded =>
    (indexItems p.services p.settings.indexBatchSize embedded.dimension items state).store results
      .saved

def runStage (p : Pipeline State) : Stage → StageResults → State → StageStep State
  | .parsing => p.runParsing
  | .dependencies => p.runDependencies
  | .enrichment => p.runEnrichment
  | .vectorization => p.runVectorization
  | .indexing => p.runIndexing

def runStages (p : Pipeline State) : List Stage → StageResults → State → StageStep State
  | [], results, state => ⟨.ok (), results, [], state⟩
  | stage :: rest, results, state =>
    let first := p.runStage stage results state
    match first.outcome with
    | .error _ => first
    | .ok () =>
      let others := p.runStages rest first.results first.state
      { others with events := first.events ++ others.events }

def run (p : Pipeline State) (state : State) : StageRun State StageResults :=
  let done := p.runStages Stage.all {} state
  ⟨done.outcome.map fun _ => done.results, done.events, done.state⟩

end Pipeline
end CodeAtlas
