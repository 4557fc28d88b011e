import CodeAtlas.Pipeline.Services

/-!
The fourth stage: a vector for each item. A batch whose vectors cannot be had, or do not have the
right number and dimension, gets zero vectors.
-/
namespace CodeAtlas

variable {State : Type}

def embeddingText (item : Item) : String :=
  String.ofList (Text.trim
    (item.id ++ "\n" ++ item.description.getD "" ++ "\n" ++ item.code).toList)

structure EmbeddedBatch where
  items : List Item
  failed : Bool
  deriving DecidableEq, Repr

def setVector (item : Item) (vector : Embedding) : Item := { item with vector := some vector }

-- A machine that cannot hold so many components stops here; a list has room for any number.
def zeroVector (dimension : Nat) : Embedding := List.replicate dimension 0

def fits (dimension count : Nat) : Except ServiceFault (List Embedding) → Bool
  | .ok vectors => vectors.length == count && vectors.all fun v => v.length == dimension
  | .error _ => false

/-- The vectors of an answer that fits, and otherwise zero vectors. -/
def settle (dimension : Nat) (batch : List Item) (answer : Except ServiceFault (List Embedding)) :
    EmbeddedBatch :=
  if fits dimension batch.length answer then
    ⟨List.zipWith setVector batch (answer.toOption.getD []), false⟩
  else ⟨batch.map fun item => setVector item (zeroVector dimension), true⟩

def embedBatch (s : Services State) (dimension : Nat) (batch : List Item) (state : State) :
    EmbeddedBatch × State :=
  let answer := s.embed (batch.map embeddingText) state
  (settle dimension batch answer.1, answer.2)

def embeddingEvents (total size count zeros : Nat) : List ProgressEvent :=
  ProgressEvent.ofStage .vectorization total ("embedding " ++ toString total ++ " items")
    (batchReports total size count) (toString zeros ++ " zero vectors")

def embedItems (s : Services State) (size delayMillis dimension : Nat) (items : List Item)
    (state : State) : StageRun State EmbeddedItems :=
  let done := s.inBatches delayMillis (embedBatch s dimension) (batches size items) state
  let failed := done.1.filter EmbeddedBatch.failed
  let zeros := (failed.flatMap EmbeddedBatch.items).length
  { outcome := .ok
      { items := some (done.1.flatMap EmbeddedBatch.items)
        dimension := dimension
        stats :=
          { items := items.length
            dimension := dimension
            batches := done.1.length
            failedBatches := failed.length
            zeroVectors := zeros }
        finishedAt := s.now done.2 }
    events := embeddingEvents items.length size done.1.length zeros
    state := done.2 }

end CodeAtlas
