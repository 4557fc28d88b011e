import CodeAtlas.Config.Basic
import CodeAtlas.Enrichment.Enricher
import CodeAtlas.Index.Builder
import CodeAtlas.Pipeline.Progress
import CodeAtlas.Pipeline.Results
import CodeAtlas.Symbols.Dependencies
import CodeAtlas.Vectorizer

/-!
The services the stages rely on, as functions on the state of a run, and the order in which work in
batches is handed to them.
-/
namespace CodeAtlas

structure Services (State : Type) where
  now : State → Timestamp
  files : State → FileTree
  /-- Shows all items to the service that finds dependencies. -/
  prepare : List Item → State → State
  dependencies : Item → List Item → State → Except ServiceFault (List Dependency) × State
  /-- Assembles the graph of items whose dependencies are known. -/
  graph : List Item → State → DependencyGraph × State
  enrich : List Item → State → Except ServiceFault (List Enrichment) × State
  startVectors : State → Except ServiceFault Nat × State
  embed : List String → State → Except ServiceFault (List Embedding) × State
  startIndex : Nat → State → Except ServiceFault Unit × State
  addVectors : Nat → List Embedding → State → Except ServiceFault Unit × State
  optimizeIndex : State → Except ServiceFault Unit × State
  saveIndex : State → Except ServiceFault Path × State
  writeText : Path → String → State → Except FileFault Unit × State
  /-- Waits a number of milliseconds. -/
  pause : Nat → State → State

structure StageRun (State Outcome : Type) where
  outcome : Except PipelineFault Outcome
  events : List ProgressEvent
  state : State

/-- Cuts a list into pieces of a size, the last of which may be shorter. Size zero counts as one. -/
def batches {α : Type} (size : Nat) : List α → List (List α)
  | [] => []
  | a :: rest => (a :: rest.take (size - 1)) :: batches size (rest.drop (size - 1))
  termination_by items => items.length
  decreasing_by simp only [List.length_drop, List.length_cons]; omega

def inOrder {State α β : Type} (work : α → State → β × State) : List α → State → List β × State
  | [], state => ([], state)
  | a :: rest, state =>
    let first := work a state
    let others := inOrder work rest first.2
    (first.1 :: others.1, others.2)

namespace Services

variable {State : Type}

def pace (s : Services State) (delayMillis : Nat) (batch : Nat) (state : State) : State :=
  if batch = 0 ∨ delayMillis = 0 then state else s.pause delayMillis state

def inBatches {α β : Type} (s : Services State) (delayMillis : Nat)
    (work : α → State → β × State) (batches : List α) (state : State) : List β × State :=
  inOrder (fun entry before => work entry.1 (s.pace delayMillis entry.2 before)) batches.zipIdx
    state

end Services

def batchReports (total size count : Nat) : List (Nat × String) :=
  (List.range count).map fun batch =>
    (min ((batch + 1) * max size 1) total, "batch " ++ toString (batch + 1))

end CodeAtlas
