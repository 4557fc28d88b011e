import CodeAtlas.Outline.Java
import CodeAtlas.SyntaxTree.Construct

/-!
Java declarations in a syntax tree: types, methods and constructors.
-/
namespace CodeAtlas.SyntaxTree.Java

def typeKinds : List String :=
  ["class_declaration", "record_declaration", "interface_declaration", "enum_declaration",
   "annotation_type_declaration"]

def kindOf? (nodeKind : String) : Option ItemKind :=
  match nodeKind with
  | "class_declaration" | "record_declaration" => some .class
  | "interface_declaration" => some .interface
  | "enum_declaration" => some .enum
  | "annotation_type_declaration" => some .annotationType
  | "method_declaration" => some .method
  | "constructor_declaration" => some .constructor
  | _ => none

def isAnnotation (n : Node) : Bool := n.kind == "marker_annotation" || n.kind == "annotation"

def isParameter (n : Node) : Bool := n.kind == "formal_parameter" || n.kind == "spread_parameter"

def parameterText (source : Line) (n : Node) : String :=
  String.ofList (Text.join [' '] (Text.words (n.text source)))

def parameters (source : Line) (node : Node) : List String :=
  match node.field? "parameters" with
  | some list => (list.namedChildren.filter isParameter).map (parameterText source)
  | none => []

def enumConstants (source : Line) (node : Node) : List String :=
  if node.kind == "enum_declaration" then
    match node.field? "body" with
    | some body =>
      (body.namedChildren.filter fun c => c.kind == "enum_constant").filterMap fun c =>
        c.fieldText? source "name"
    | none => []
  else []

def typesIn (source : Line) (node : Node) (clause : String) : List String :=
  match (node.childOfKind? clause).bind fun c => c.childOfKind? "type_list" with
  | some list => list.namedTexts source
  | none => []

def thrown (source : Line) (node : Node) : List String :=
  match node.childOfKind? "throws" with
  | some clause => clause.namedTexts source
  | none => []

def member (source : Line) (node : Node) (found : Construct) : Construct :=
  found.setList "parameters" (parameters source node)
    |>.setOption "returnType" (node.fieldText? source "type")
    |>.setOption "typeParameters" (node.fieldText? source "type_parameters")
    |>.setList "throws" (thrown source node)

def type (source : Line) (node : Node) (found : Construct) : Construct :=
  let superclass := (node.childOfKind? "superclass").bind fun s => s.namedChildren.head?
  let found := found.setOption "typeParameters" (node.fieldText? source "type_parameters")
    |>.setOption "extends" (superclass.map (Node.string source))
    |>.setList "implements" (typesIn source node "super_interfaces")
    |>.setList "extendsInterfaces" (typesIn source node "extends_interfaces")
    |>.setList "constants" (enumConstants source node)
  if node.kind == "record_declaration" then
    found.setFlag "isRecord" true |>.setList "recordComponents" (parameters source node)
  else found

def declaration (source : Line) (site : Site) (kind : ItemKind) (name : String) : Construct :=
  let modifiers := site.node.childOfKind? "modifiers"
  let has (token : String) := modifiers.any fun m => m.hasToken token
  let annotations := match modifiers with
    | some m => (m.namedChildren.filter isAnnotation).map (Node.string source)
    | none => []
  let enclosing := (site.ancestorOfKind? typeKinds).bind fun t => t.fieldText? source "name"
  construct source kind name site.node
    |>.set "visibility" (.string (Outline.Java.visibility has))
    |>.setFlag "isStatic" (has "static")
    |>.setFlag "isAbstract" (has "abstract")
    |>.setFlag "isFinal" (has "final")
    |>.setList "annotations" annotations
    |>.setOption "javadoc" (leadingComment source ["block_comment"] true site)
    |>.setOption "className" enclosing

def construct? (source : Line) (site : Site) : Option Construct :=
  match kindOf? site.node.kind, site.node.fieldText? source "name" with
  | some kind, some name =>
    let found := declaration source site kind name
    if kind = .method ∨ kind = .constructor then some (member source site.node found)
    else some (type source site.node found)
  | _, _ => none

end CodeAtlas.SyntaxTree.Java
