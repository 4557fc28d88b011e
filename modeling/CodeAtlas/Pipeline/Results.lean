import CodeAtlas.Item.Timestamp
import CodeAtlas.Index.Entry
import CodeAtlas.Pipeline.Fault
import CodeAtlas.Symbols.Graph

/-!
What the stages leave behind. The items of a run are held by the stage that worked on them last;
the stage after it takes them and leaves the rest in place.
-/
namespace CodeAtlas

structure ParsingStats where
  filesDiscovered : Nat := 0
  filesParsed : Nat := 0
  filesFailed : Nat := 0
  itemsExtracted : Nat := 0
  deriving DecidableEq, Repr

structure DependencyStats where
  items : Nat := 0
  itemsWithDependencies : Nat := 0
  edges : Nat := 0
  failures : Nat := 0
  deriving DecidableEq, Repr

structure EnrichmentStats where
  items : Nat := 0
  batches : Nat := 0
  failedBatches : Nat := 0
  /-- Items whose description says that it could not be had. -/
  degradedItems : Nat := 0
  deriving DecidableEq, Repr

structure VectorizationStats where
  items : Nat := 0
  dimension : Nat := 0
  batches : Nat := 0
  failedBatches : Nat := 0
  zeroVectors : Nat := 0
  deriving DecidableEq, Repr

structure IndexingStats where
  vectors : Nat := 0
  batches : Nat := 0
  deriving DecidableEq, Repr

structure ExtractedItems where
  items : Option (List Item)
  files : List Path
  stats : ParsingStats
  finishedAt : Timestamp
  deriving DecidableEq, Repr

structure LinkedItems where
  items : Option (List Item)
  graph : DependencyGraph
  stats : DependencyStats
  finishedAt : Timestamp
  deriving DecidableEq, Repr

structure DescribedItems where
  items : Option (List Item)
  stats : EnrichmentStats
  finishedAt : Timestamp
  deriving DecidableEq, Repr

structure EmbeddedItems where
  items : Option (List Item)
  dimension : Nat
  stats : VectorizationStats
  finishedAt : Timestamp
  deriving DecidableEq, Repr

structure SavedIndex where
  indexPath : Path
  entriesPath : Path
  entries : List IndexEntry
  stats : IndexingStats
  finishedAt : Timestamp
  deriving DecidableEq, Repr

inductive StageOutput where
  | extracted (output : ExtractedItems)
  | linked (output : LinkedItems)
  | described (output : DescribedItems)
  | embedded (output : EmbeddedItems)
  | saved (output : SavedIndex)
  deriving DecidableEq, Repr

namespace StageOutput

def stage : StageOutput → Stage
  | extracted _ => .parsing
  | linked _ => .dependencies
  | described _ => .enrichment
  | embedded _ => .vectorization
  | saved _ => .indexing

def items? : StageOutput → Option (List Item)
  | extracted output => output.items
  | linked output => output.items
  | described output => output.items
  | embedded output => output.items
  | saved _ => none

def withoutItems : StageOutput → StageOutput
  | extracted output => .extracted { output with items := none }
  | linked output => .linked { output with items := none }
  | described output => .described { output with items := none }
  | embedded output => .embedded { output with items := none }
  | saved output => .saved output

def statsJson : StageOutput → Json
  | extracted ⟨_, _, stats, _⟩ =>
    .object [("filesDiscovered", .ofNat stats.filesDiscovered),
      ("filesParsed", .ofNat stats.filesParsed), ("filesFailed", .ofNat stats.filesFailed),
      ("itemsExtracted", .ofNat stats.itemsExtracted)]
  | linked ⟨_, _, stats, _⟩ =>
    .object [("items", .ofNat stats.items),
      ("itemsWithDeps", .ofNat stats.itemsWithDependencies), ("edges", .ofNat stats.edges),
      ("failures", .ofNat stats.failures)]
  | described ⟨_, stats, _⟩ =>
    .object [("items", .ofNat stats.items), ("batches", .ofNat stats.batches),
      ("failedBatches", .ofNat stats.failedBatches), ("degradedItems", .ofNat stats.degradedItems)]
  | embedded ⟨_, _, stats, _⟩ =>
    .object [("items", .ofNat stats.items), ("dimension", .ofNat stats.dimension),
      ("batches", .ofNat stats.batches), ("failedBatches", .ofNat stats.failedBatches),
      ("zeroVectors", .ofNat stats.zeroVectors)]
  | saved ⟨_, _, _, stats, _⟩ =>
    .object [("vectors", .ofNat stats.vectors), ("batches", .ofNat stats.batches)]

end StageOutput

structure StageResults where
  extracted : Option ExtractedItems := none
  linked : Option LinkedItems := none
  described : Option DescribedItems := none
  embedded : Option EmbeddedItems := none
  saved : Option SavedIndex := none
  deriving DecidableEq, Repr

namespace StageResults

def output? (r : StageResults) : Stage → Option StageOutput
  | .parsing => r.extracted.map .extracted
  | .dependencies => r.linked.map .linked
  | .enrichment => r.described.map .described
  | .vectorization => r.embedded.map .embedded
  | .indexing => r.saved.map .saved

def insert (r : StageResults) : StageOutput → StageResults
  | .extracted output => { r with extracted := some output }
  | .linked output => { r with linked := some output }
  | .described output => { r with described := some output }
  | .embedded output => { r with embedded := some output }
  | .saved output => { r with saved := some output }

def outputs (r : StageResults) : List StageOutput := Stage.all.filterMap r.output?

def size (r : StageResults) : Nat := r.outputs.length

def isEmpty (r : StageResults) : Bool := r.outputs.isEmpty

def heldItems? (r : StageResults) (source : Stage) : Option (List Item) :=
  (r.output? source).bind StageOutput.items?

/-- The items that `stage` needs from `source`, which keeps them. -/
def items (r : StageResults) (stage source : Stage) : Except PipelineFault (List Item) :=
  match r.heldItems? source with
  | some items => .ok items
  | none => .error (.missingPrerequisite stage source "items")

def withoutItems (r : StageResults) (source : Stage) : StageResults :=
  match r.output? source with
  | some output => r.insert output.withoutItems
  | none => r

/-- The items that `stage` needs from `source`, and the results without them. -/
def take (r : StageResults) (stage source : Stage) :
    Except PipelineFault (List Item × StageResults) :=
  match r.items stage source with
  | .ok items => .ok (items, r.withoutItems source)
  | .error fault => .error fault

end StageResults
end CodeAtlas
