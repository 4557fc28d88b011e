import CodeAtlas.Outline.Go
import CodeAtlas.SyntaxTree.Construct

/-!
Go declarations in a syntax tree: functions, methods and types.
-/
namespace CodeAtlas.SyntaxTree.Go

/-- The texts of parameters: name and type for each name, or the type alone. -/
def parameterTexts (source : Line) (declaration : Node) : List String :=
  let bare := (declaration.fieldText? source "type").getD ""
  let type := if declaration.kind == "variadic_parameter_declaration" then "..." ++ bare else bare
  match declaration.fields "name" with
  | [] => [type]
  | names => names.map fun n => n.string source ++ " " ++ type

def isParameter (n : Node) : Bool :=
  Text.endsWith "parameter_declaration".toList n.kind.toList

def parameters (source : Line) (node : Node) : List String :=
  match node.field? "parameters" with
  | some list => (list.namedChildren.filter isParameter).flatMap (parameterTexts source)
  | none => []

def isExported (name : String) : Bool := Outline.Go.isExported name.toList

def docComment (source : Line) (site : Site) : Option String :=
  leadingComment source ["comment"] false site

def function (source : Line) (site : Site) (name : String) : Construct :=
  construct source .function name site.node
    |>.setFlag "isExported" (isExported name)
    |>.setList "parameters" (parameters source site.node)
    |>.setOption "returnType" (site.node.fieldText? source "result")
    |>.setOption "typeParameters" (site.node.fieldText? source "type_parameters")
    |>.setOption "docComment" (docComment source site)

def receiverType? (source : Line) (receiver : Node) : Option String :=
  (receiver.namedChildren.head?.bind fun d => d.fieldText? source "type").map fun type =>
    String.ofList (Outline.Go.baseTypeName type.toList)

def method (source : Line) (site : Site) (name : String) : Construct :=
  let receiver := site.node.field? "receiver"
  construct source .method name site.node
    |>.setFlag "isExported" (isExported name)
    |>.setOption "receiver" (receiver.map (Node.string source))
    |>.setOption "receiverType" (receiver.bind (receiverType? source))
    |>.setList "parameters" (parameters source site.node)
    |>.setOption "returnType" (site.node.fieldText? source "result")
    |>.setOption "docComment" (docComment source site)

def isTypeSpec (n : Node) : Bool := n.kind == "type_spec" || n.kind == "type_alias"

/-- A lone type stands for its whole declaration, one of a group for itself. -/
def typeSite (site : Site) : Site :=
  ((site.parentOfKind? ["type_declaration"]).filter fun p =>
    (p.node.namedChildren.filter isTypeSpec).length = 1).getD site

def structFields (source : Line) (struct : Node) : List String × List String :=
  match struct.childOfKind? "field_declaration_list" with
  | none => ([], [])
  | some list =>
    let declarations := list.namedChildren.filter fun d => d.kind == "field_declaration"
    (declarations.flatMap fun d => (d.fields "name").map (Node.string source),
      declarations.filterMap fun d =>
        if (d.fields "name").isEmpty then d.fieldText? source "type" else none)

def isMethodMember (n : Node) : Bool := n.kind == "method_elem" || n.kind == "method_spec"

def isTypeMember (n : Node) : Bool := n.kind == "type_elem" || n.kind == "constraint_elem"

def interfaceMembers (source : Line) (interface : Node) : List String × List String :=
  ((interface.namedChildren.filter isMethodMember).filterMap fun m => m.fieldText? source "name",
    (interface.namedChildren.filter isTypeMember).map (Node.string source))

def typeKind (isAlias : Bool) (type : Node) : ItemKind :=
  if isAlias then .type
  else if type.kind == "struct_type" then .struct
  else if type.kind == "interface_type" then .interface
  else .type

def type (source : Line) (site : Site) (name : String) (type : Node) : Construct :=
  let isAlias := site.node.kind == "type_alias"
  let outer := typeSite site
  let kind := typeKind isAlias type
  let found := construct source kind name outer.node
    |>.setFlag "isExported" (isExported name)
    |>.setOption "typeParameters" (site.node.fieldText? source "type_parameters")
    |>.setOption "docComment" (docComment source outer)
  match kind with
  | .struct =>
    let (fields, embedded) := structFields source type
    found.setList "fields" fields |>.setList "embedded" embedded
  | .interface =>
    let (methods, embedded) := interfaceMembers source type
    found.setList "methods" methods |>.setList "embedded" embedded
  | _ =>
    found.set "underlyingType" (.string (type.string source)) |>.setFlag "isAlias" isAlias

def construct? (source : Line) (site : Site) : Option Construct :=
  match site.node.fieldText? source "name" with
  | none => none
  | some name =>
    if site.node.kind == "function_declaration" then some (function source site name)
    else if site.node.kind == "method_declaration" then some (method source site name)
    else if isTypeSpec site.node then (site.node.field? "type").map (type source site name)
    else none

end CodeAtlas.SyntaxTree.Go
