import CodeAtlas.Outline.Python
import CodeAtlas.SyntaxTree.Construct

/-!
Python declarations in a syntax tree: functions, methods and classes.
-/
namespace CodeAtlas.SyntaxTree.Python

/-- The function or class whose body directly holds a node, looking through blocks and
decorators. -/
def enclosingScope? : List Frame → Option Node
  | [] => none
  | frame :: above =>
    if frame.node.kind == "function_definition" || frame.node.kind == "class_definition" then
      some frame.node
    else if frame.node.kind == "block" || frame.node.kind == "decorated_definition" then
      enclosingScope? above
    else none

def docstring (source : Line) (node : Node) : Option String :=
  match (node.field? "body").bind fun b => b.namedChildren.find? fun c => c.kind != "comment" with
  | none => none
  | some first =>
    if first.kind == "expression_statement" then
      match first.namedChildren.head? with
      | some string =>
        if string.kind == "string" then Outline.Python.cleanDocstring (string.text source)
        else none
      | none => none
    else none

def fieldTexts (source : Line) (node : Node) (name : String) : List String :=
  match node.field? name with
  | some list => list.namedTexts source
  | none => []

def function (source : Line) (node outer : Node) (inClass : Bool) (name : String) : Construct :=
  construct source (if inClass then .method else .function) name outer
    |>.setFlag "isAsync" (node.hasToken "async")
    |>.setList "parameters" (fieldTexts source node "parameters")
    |>.setOption "returnType" (node.fieldText? source "return_type")

def classConstruct (source : Line) (node outer : Node) (name : String) : Construct :=
  construct source .class name outer |>.setList "bases" (fieldTexts source node "superclasses")

def bare? (source : Line) (site outer : Site) (enclosing : Option Node) (name : String) :
    Option Construct :=
  if site.node.kind == "function_definition" then
    some (function source site.node outer.node enclosing.isSome name)
  else if site.node.kind == "class_definition" then
    some (classConstruct source site.node outer.node name)
  else none

def construct? (source : Line) (site : Site) : Option Construct :=
  match site.node.fieldText? source "name" with
  | none => none
  | some name =>
    let decorated := site.parentOfKind? ["decorated_definition"]
    let outer := decorated.getD site
    let decorators := match decorated with
      | some d => (d.node.namedChildren.filter fun c => c.kind == "decorator").map
          (Node.string source)
      | none => []
    let enclosing := (enclosingScope? outer.above).filter fun s => s.kind == "class_definition"
    (bare? source site outer enclosing name).map fun found =>
      found.setFlag "isPrivate" (Outline.Python.isPrivate name.toList)
        |>.setList "decorators" decorators
        |>.setOption "docstring" (docstring source site.node)
        |>.setOption "className" (enclosing.bind fun c => c.fieldText? source "name")

end CodeAtlas.SyntaxTree.Python
