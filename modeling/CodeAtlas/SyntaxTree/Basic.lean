import CodeAtlas.Text.Octets

/-!
Concrete syntax trees. A node covers a range of octets of the source, in rows that come with it, and
may fill a field of its parent; tokens such as keywords are nodes without a name. A site is a node
together with its place in the tree, and the sites of a tree are listed parents first, children in
order.
-/
namespace CodeAtlas

structure NodeLabel where
  field : Option String
  named : Bool
  kind : String
  deriving DecidableEq, Repr

/-- The rows of a source, from zero, that a node begins and ends in. -/
structure Rows where
  first : Nat
  last : Nat
  deriving DecidableEq, Repr

inductive Node where
  | mk (label : NodeLabel) (start stop : Nat) (rows : Option Rows) (children : List Node)

namespace Node

def label : Node → NodeLabel
  | mk label _ _ _ _ => label

def start : Node → Nat
  | mk _ start _ _ _ => start

def stop : Node → Nat
  | mk _ _ stop _ _ => stop

def givenRows? : Node → Option Rows
  | mk _ _ _ rows _ => rows

def children : Node → List Node
  | mk _ _ _ _ children => children

def kind (n : Node) : String := n.label.kind

def isNamed (n : Node) : Bool := n.label.named

def namedChildren (n : Node) : List Node := n.children.filter isNamed

def inField (name : String) (n : Node) : Bool := n.label.field == some name

def field? (n : Node) (name : String) : Option Node := n.children.find? (inField name)

def fields (n : Node) (name : String) : List Node := n.children.filter (inField name)

def childOfKind? (n : Node) (kind : String) : Option Node :=
  n.children.find? fun c => c.kind == kind

def hasToken (n : Node) (token : String) : Bool :=
  n.children.any fun c => !c.isNamed && c.kind == token

def text (source : Line) (n : Node) : Line := Text.slice n.start n.stop source

def string (source : Line) (n : Node) : String := String.ofList (n.text source)

def fieldText? (source : Line) (n : Node) (name : String) : Option String :=
  (n.field? name).map (string source)

def countedRows (source : Line) (n : Node) : Rows :=
  ⟨Text.rowAt n.start source, Text.rowAt n.stop source⟩

/-- The rows as the parser gave them. A listing leaves them out, and they are counted. -/
def rows (source : Line) (n : Node) : Rows := n.givenRows?.getD (n.countedRows source)

def startRow (source : Line) (n : Node) : Nat := (n.rows source).first

def stopRow (source : Line) (n : Node) : Nat := (n.rows source).last

def isComment (n : Node) : Bool := Text.contains "comment".toList n.kind.toList

def namedTexts (source : Line) (n : Node) : List String :=
  (n.namedChildren.filter fun c => !c.isComment).map (string source)

end Node

structure Frame where
  node : Node
  earlier : List Node

/-- A node with the siblings before it, nearest first, and its ancestors, innermost first. -/
structure Site where
  node : Node
  earlier : List Node
  above : List Frame

namespace Site

def parent? (site : Site) : Option Site :=
  match site.above with
  | [] => none
  | frame :: above => some ⟨frame.node, frame.earlier, above⟩

def frame (site : Site) : Frame := ⟨site.node, site.earlier⟩

def parentOfKind? (site : Site) (kinds : List String) : Option Site :=
  site.parent?.filter fun p => kinds.contains p.node.kind

def ancestorOfKind? (site : Site) (kinds : List String) : Option Node :=
  (site.above.find? fun frame => kinds.contains frame.node.kind).map Frame.node

def namedBefore (site : Site) : List Node := site.earlier.filter Node.isNamed

end Site

mutual

def Node.sites (above : List Frame) (earlier : List Node) : Node → List Site
  | .mk label start stop rows children =>
    let node := Node.mk label start stop rows children
    ⟨node, earlier, above⟩ :: sitesOfAll (⟨node, earlier⟩ :: above) [] children

def sitesOfAll (above : List Frame) (earlier : List Node) : List Node → List Site
  | [] => []
  | node :: rest => Node.sites above earlier node ++ sitesOfAll above (node :: earlier) rest

end

def Node.allSites (root : Node) : List Site := root.sites [] []

structure ListedNode where
  depth : Nat
  label : NodeLabel
  start : Nat
  stop : Nat
  deriving DecidableEq, Repr

/-- Adds an entry in front of the trees of those after it: the deeper ones become its children. -/
def ListedNode.adopt (entry : ListedNode) (later : List (Nat × Node)) : List (Nat × Node) :=
  let (below, rest) := later.span fun tree => entry.depth < tree.1
  (entry.depth, .mk entry.label entry.start entry.stop none (below.map Prod.snd)) :: rest

def Node.ofListing? (entries : List ListedNode) : Option Node :=
  ((entries.foldr ListedNode.adopt []).head?).map Prod.snd

end CodeAtlas
