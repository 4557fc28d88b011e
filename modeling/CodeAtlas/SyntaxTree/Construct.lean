import CodeAtlas.Item.Construct
import CodeAtlas.Outline.Comment
import CodeAtlas.SyntaxTree.Basic

/-!
Declarations read off syntax nodes.
-/
namespace CodeAtlas.SyntaxTree

def construct (source : Line) (kind : ItemKind) (name : String) (node : Node) : Construct :=
  { kind := kind
    name := name
    startLine := node.startRow source + 1
    endLine := node.stopRow source + 1
    code := node.string source }

/-- The comments that stand line on line directly above row `next`, nearest first. -/
def commentsAbove (source : Line) (kinds : List String) (docOnly : Bool) (next : Nat) :
    List Node → List Line
  | [] => []
  | node :: rest =>
    let raw := node.text source
    if !kinds.contains node.kind || node.stopRow source + 1 < next then []
    else if docOnly && !Text.startsWith ['/', '*', '*'] raw then []
    else raw :: commentsAbove source kinds docOnly (node.startRow source) rest

def leadingComment (source : Line) (kinds : List String) (docOnly : Bool) (site : Site) :
    Option String :=
  let blocks := commentsAbove source kinds docOnly (site.node.startRow source) site.namedBefore
  if blocks.isEmpty then none
  else Outline.nonempty? (Outline.cleanComment (Text.joinLines blocks.reverse))

def constructs (kinds : List String) (construct? : Site → Option Construct) (root : Node) :
    List Construct :=
  root.allSites.filterMap fun site =>
    if site.node.isNamed && kinds.contains site.node.kind then construct? site else none

end CodeAtlas.SyntaxTree
