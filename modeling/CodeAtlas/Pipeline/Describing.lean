import CodeAtlas.Pipeline.Services

/-!
The third stage: what each item is for. Every item leaves it with a description, a summary and
tags, be they only the reason why there are no better ones.
-/
namespace CodeAtlas

variable {State : Type}

structure DescribedBatch where
  items : List Item
  failed : Bool
  deriving DecidableEq, Repr

def missingReply : Enrichment := .failed "missing from batch response"

/-- Gives each item the enrichment at its place; those beyond the last item do not count. -/
def applyAll : List Enrichment → List Item → List Item
  | _, [] => []
  | [], item :: rest => missingReply.apply item :: applyAll [] rest
  | e :: es, item :: rest => e.apply item :: applyAll es rest

def describeBatch (s : Services State) (batch : List Item) (state : State) :
    DescribedBatch × State :=
  match s.enrich batch state with
  | (.ok enrichments, after) => (⟨applyAll enrichments batch, false⟩, after)
  | (.error fault, after) =>
    (⟨batch.map (Enrichment.failed fault.message).fillMissing, true⟩, after)

def isDegraded (item : Item) : Bool := item.description.any Enrichment.marksFailure

def describingEvents (total size count degraded : Nat) : List ProgressEvent :=
  ProgressEvent.ofStage .enrichment total ("enriching " ++ toString total ++ " items")
    (batchReports total size count) (toString degraded ++ " items degraded")

def describeItems (s : Services State) (size delayMillis : Nat) (items : List Item)
    (state : State) : StageRun State DescribedItems :=
  let done := s.inBatches delayMillis (describeBatch s) (batches size items) state
  let described := done.1.flatMap DescribedBatch.items
  let degraded := (described.filter isDegraded).length
  { outcome := .ok
      { items := some described
        stats :=
          { items := items.length
            batches := done.1.length
            failedBatches := (done.1.filter DescribedBatch.failed).length
            degradedItems := degraded }
        finishedAt := s.now done.2 }
    events := describingEvents items.length size done.1.length degraded
    state := done.2 }

end CodeAtlas
