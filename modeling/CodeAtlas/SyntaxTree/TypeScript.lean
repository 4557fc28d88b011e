import CodeAtlas.SyntaxTree.Construct

/-!
TypeScript and JavaScript declarations in a syntax tree: functions, named arrow functions, classes,
methods, interfaces and type aliases.
-/
namespace CodeAtlas.SyntaxTree.TypeScript

def classKinds : List String := ["class_declaration", "abstract_class_declaration", "class"]

def jsDoc (source : Line) (site : Site) : Option String :=
  leadingComment source ["comment"] true site

def exported (source : Line) (outer : Site) (found : Construct) : Construct :=
  let exporting := outer.parentOfKind? ["export_statement"]
  found.setFlag "isExported" exporting.isSome
    |>.setFlag "isDefault" (exporting.any fun e => e.node.hasToken "default")
    |>.setOption "jsDoc" (jsDoc source (exporting.getD outer))

def parameters (source : Line) (node : Node) : List String :=
  match node.field? "parameters" with
  | some list => list.namedTexts source
  | none => (node.fieldText? source "parameter").toList

def annotated (type : Line) : String :=
  String.ofList (Text.trim (type.dropWhile (· == ':')))

def signature (source : Line) (node : Node) (found : Construct) : Construct :=
  found.setFlag "isAsync" (node.hasToken "async")
    |>.setList "parameters" (parameters source node)
    |>.setOption "returnType" ((node.field? "return_type").map fun t => annotated (t.text source))
    |>.setOption "typeParameters" (node.fieldText? source "type_parameters")

def function (source : Line) (site : Site) (name : String) : Construct :=
  signature source site.node (construct source .function name site.node)
    |>.setFlag "isGenerator" (site.node.kind == "generator_function_declaration")
    |> exported source site

def accessibility (source : Line) (node : Node) : Option String :=
  (node.childOfKind? "accessibility_modifier").map (Node.string source)

def enclosingClass (source : Line) (site : Site) : Option String :=
  (site.ancestorOfKind? classKinds).bind fun c => c.fieldText? source "name"

/-- A declaration of one variable stands for the whole statement. -/
def declaratorSite (declarator : Site) : Site :=
  ((declarator.parentOfKind? ["lexical_declaration", "variable_declaration"]).filter fun d =>
    d.node.namedChildren.length = 1).getD declarator

def arrowVariable (source : Line) (site declarator : Site) (name : String) : Construct :=
  let outer := declaratorSite declarator
  signature source site.node (construct source .function name outer.node)
    |>.setFlag "isArrow" true
    |> exported source outer

def arrowField (source : Line) (site field : Site) (name : String) : Construct :=
  signature source site.node (construct source .method name field.node)
    |>.setFlag "isArrow" true
    |>.setFlag "isStatic" (field.node.hasToken "static")
    |>.setOption "accessibility" (accessibility source field.node)
    |>.setOption "className" (enclosingClass source field)
    |>.setOption "jsDoc" (jsDoc source field)

def nameKinds : List String :=
  ["identifier", "property_identifier", "private_property_identifier"]

/-- An arrow function counts when it is the value of a variable or of a field. -/
def arrow? (source : Line) (site : Site) : Option Construct :=
  match site.parent? with
  | none => none
  | some parent =>
    match (parent.node.field? "name").filter fun n => nameKinds.contains n.kind with
    | none => none
    | some nameNode =>
      let name := nameNode.string source
      if parent.node.kind == "variable_declarator" then
        some (arrowVariable source site parent name)
      else if parent.node.kind == "public_field_definition" then
        some (arrowField source site parent name)
      else none

def isDecorator (n : Node) : Bool := n.kind == "decorator"

def decorators (source : Line) (node : Node) : List String :=
  (node.namedChildren.filter isDecorator).map (Node.string source)

def decoratorsBefore (source : Line) (site : Site) : List String :=
  ((site.namedBefore.takeWhile isDecorator).map (Node.string source)).reverse

def method (source : Line) (site : Site) (name : String) : Construct :=
  signature source site.node (construct source .method name site.node)
    |>.setFlag "isStatic" (site.node.hasToken "static")
    |>.setOption "accessibility" (accessibility source site.node)
    |>.setOption "accessor" (["get", "set"].find? site.node.hasToken)
    |>.setList "decorators" (decoratorsBefore source site)
    |>.setOption "className" (enclosingClass source site)
    |>.setOption "jsDoc" (jsDoc source site)

/-- The text of an `extends` clause without the keyword, however often that is repeated. -/
def withoutExtends (clause : Line) : Line := go clause.length clause
where
  go : Nat → Line → Line
    | 0, text => text
    | n + 1, text =>
      match Text.stripPrefix? "extends".toList text with
      | some rest => go n rest
      | none => text

def classConstruct (source : Line) (site : Site) (name : String) : Construct :=
  let heritage := site.node.childOfKind? "class_heritage"
  let extended := (heritage.bind fun h => h.childOfKind? "extends_clause").map fun e =>
    String.ofList (Text.trim (withoutExtends (e.text source)))
  let implemented := match heritage.bind fun h => h.childOfKind? "implements_clause" with
    | some clause => clause.namedTexts source
    | none => []
  let outer := match site.parentOfKind? ["export_statement"] with
    | some e => decorators source e.node
    | none => []
  construct source .class name site.node
    |>.setFlag "isAbstract" (site.node.kind == "abstract_class_declaration")
    |>.setOption "typeParameters" (site.node.fieldText? source "type_parameters")
    |>.setOption "extends" extended
    |>.setList "implements" implemented
    |>.setList "decorators" (outer ++ decorators source site.node)
    |>.setOption "className" (enclosingClass source site)
    |> exported source site

def interface (source : Line) (site : Site) (name : String) : Construct :=
  let extended := match site.node.childOfKind? "extends_type_clause" with
    | some clause => clause.namedTexts source
    | none => []
  construct source .interface name site.node
    |>.setOption "typeParameters" (site.node.fieldText? source "type_parameters")
    |>.setList "extends" extended
    |> exported source site

def typeAlias (source : Line) (site : Site) (name : String) : Construct :=
  construct source .type name site.node
    |>.setOption "typeParameters" (site.node.fieldText? source "type_parameters")
    |>.setOption "definition" (site.node.fieldText? source "value")
    |> exported source site

def makerOf? (nodeKind : String) : Option (Line → Site → String → Construct) :=
  match nodeKind with
  | "function_declaration" | "generator_function_declaration" => some function
  | "method_definition" => some method
  | "class_declaration" | "abstract_class_declaration" => some classConstruct
  | "interface_declaration" => some interface
  | "type_alias_declaration" => some typeAlias
  | _ => none

def construct? (source : Line) (site : Site) : Option Construct :=
  if site.node.kind == "arrow_function" then arrow? source site
  else
    match makerOf? site.node.kind, site.node.fieldText? source "name" with
    | some make, some name => some (make source site name)
    | _, _ => none

end CodeAtlas.SyntaxTree.TypeScript
