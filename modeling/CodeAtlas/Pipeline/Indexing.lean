import CodeAtlas.Pipeline.Services

/-!
The last stage: all vectors in one saved index, and next to it a table of the items they belong to.
-/
namespace CodeAtlas

variable {State : Type}

def vectorsOf (dimension : Nat) : List Item → Except VectorDefect (List Embedding)
  | [] => .ok []
  | item :: rest =>
    match item.vector with
    | none => .error (.missing item.id)
    | some vector =>
      if vector.length = dimension then
        match vectorsOf dimension rest with
        | .ok vectors => .ok (vector :: vectors)
        | .error defect => .error defect
      else .error (.misfit item.id vector.length dimension)

def addingEvent (total added : Nat) : ProgressEvent :=
  .report .indexing total added ("added " ++ toString added ++ " vectors")

def addBatches (s : Services State) (total : Nat) :
    Nat → List (List Embedding) → State → StageRun State Nat
  | _, [], state => ⟨.ok 0, [], state⟩
  | first, batch :: rest, state =>
    match s.addVectors first batch state with
    | (.error fault, after) => ⟨.error (.service .indexing fault), [], after⟩
    | (.ok _, after) =>
      let added := first + batch.length
      let others := addBatches s total added rest after
      ⟨others.outcome.map (· + 1), addingEvent total added :: others.events, others.state⟩

def saveItems (s : Services State) (items : List Item) (batchCount : Nat) (state : State) :
    StageRun State SavedIndex :=
  match s.optimizeIndex state with
  | (.error fault, after) => ⟨.error (.service .indexing fault), [], after⟩
  | (.ok _, optimized) =>
    match s.saveIndex optimized with
    | (.error fault, after) => ⟨.error (.service .indexing fault), [], after⟩
    | (.ok indexPath, saved) =>
      let entries := IndexEntry.ofItems items
      let path := entriesPath indexPath
      match s.writeText path (IndexEntry.tableText entries) saved with
      | (.error fault, after) => ⟨.error (.write path fault), [], after⟩
      | (.ok _, written) =>
        { outcome := .ok
            { indexPath := indexPath
              entriesPath := path
              entries := entries
              stats := { vectors := items.length, batches := batchCount }
              finishedAt := s.now written }
          events := [.finish .indexing items.length ("saved " ++ indexPath.toString)]
          state := written }

def indexVectors (s : Services State) (size dimension : Nat) (items : List Item)
    (vectors : List Embedding) (state : State) : StageRun State SavedIndex :=
  let total := items.length
  let start := .report .indexing total 0 ("indexing " ++ toString total ++ " vectors")
  let sent := ProgressEvent.rising 0
  match s.startIndex dimension state with
  | (.error fault, after) => ⟨.error (.service .indexing fault), sent [start], after⟩
  | (.ok _, started) =>
    let added := addBatches s total 0 (batches size vectors) started
    match added.outcome with
    | .error fault => ⟨.error fault, sent (start :: added.events), added.state⟩
    | .ok count =>
      let saved := saveItems s items count added.state
      ⟨saved.outcome, sent (start :: added.events ++ saved.events), saved.state⟩

def indexItems (s : Services State) (size dimension : Nat) (items : List Item) (state : State) :
    StageRun State SavedIndex :=
  match vectorsOf dimension items with
  | .error defect => ⟨.error (.invalidPrerequisite .indexing defect), [], state⟩
  | .ok vectors => indexVectors s size dimension items vectors state

end CodeAtlas
