import CodeAtlas.Symbols.Basic

/-!
The graph of a collection's dependencies. Its nodes are the ids of the items; an edge leads from an
item to each item one of its dependencies was resolved to.
-/
namespace CodeAtlas

structure Edge where
  source : String
  target : String
  kind : DependencyKind
  deriving DecidableEq, Repr

structure GraphNode where
  id : String
  kind : ItemKind
  filePath : String
  outgoing : List String
  incoming : List String
  deriving DecidableEq, Repr

structure DependencyGraph where
  nodes : List GraphNode
  edges : List Edge
  deriving DecidableEq, Repr

namespace DependencyGraph

/-- An edge for every dependency of an item whose target is among the ids. -/
def edgesFrom (ids : List String) (item : Item) : List Edge :=
  item.dependencies.filterMap fun d =>
    match d.target with
    | some target => if target ∈ ids then some ⟨item.id, target, d.kind⟩ else none
    | none => none

/-- One edge for each pair of ends, of the kind that was found first. -/
def edgesOf (items : List Item) : List Edge :=
  Symbols.distinctBy (fun e => (e.source, e.target))
    (items.flatMap (edgesFrom (items.map Item.id)))

/-- One item for each id, the last of those that share it, sorted by id. -/
def itemsById (items : List Item) : List (String × Item) :=
  Json.sortFields (items.map fun item => (item.id, item))

def nodeOf (edges : List Edge) (id : String) (item : Item) : GraphNode :=
  { id := id
    kind := item.kind
    filePath := item.filePath
    outgoing := (edges.filter fun e => e.source == id).map Edge.target
    incoming := (edges.filter fun e => e.target == id).map Edge.source }

def ofItems (items : List Item) : DependencyGraph :=
  let edges := edgesOf items
  ⟨(itemsById items).map fun entry => nodeOf edges entry.1 entry.2, edges⟩

def node? (g : DependencyGraph) (id : String) : Option GraphNode :=
  g.nodes.find? fun n => n.id == id

end DependencyGraph
end CodeAtlas
