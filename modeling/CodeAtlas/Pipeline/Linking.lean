import CodeAtlas.Pipeline.Services

/-!
The second stage: which items depend on which. An item whose dependencies cannot be found has none
and is counted.
-/
namespace CodeAtlas

variable {State : Type}

def Services.dependenciesOf (s : Services State) (all : List Item) (item : Item) (state : State) :
    Option (List Dependency) × State :=
  match s.dependencies item all state with
  | (.ok found, after) => (some found, after)
  | (.error _, after) => (none, after)

def link (item : Item) (found : Option (List Dependency)) : Item :=
  { item with dependencies := found.getD [] }

def linkingEvents (items : List Item) (edges : Nat) : List ProgressEvent :=
  ProgressEvent.ofStage .dependencies items.length ("analyzing " ++ toString items.length ++ " items")
    (items.zipIdx.map fun entry => (entry.2 + 1, entry.1.id)) (toString edges ++ " edges")

def linkItems (s : Services State) (items : List Item) (state : State) :
    StageRun State LinkedItems :=
  let found := inOrder (s.dependenciesOf items) items (s.prepare items state)
  let linked := List.zipWith link items found.1
  let built := s.graph linked found.2
  let graph := built.1
  { outcome := .ok
      { items := some linked
        graph := graph
        stats :=
          { items := items.length
            itemsWithDependencies := (linked.filter fun item => !item.dependencies.isEmpty).length
            edges := graph.edges.length
            failures := (found.1.filter Option.isNone).length }
        finishedAt := s.now built.2 }
    events := linkingEvents items graph.edges.length
    state := built.2 }

end CodeAtlas
