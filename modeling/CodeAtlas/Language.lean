import CodeAtlas.Path

/-!
Source languages, the extensions that tell them apart, and the kinds of syntax node that may
declare something.
-/
namespace CodeAtlas

inductive Language where
  | go
  | java
  | python
  | typeScript
  | javaScript
  deriving DecidableEq, Repr

namespace Language

def id : Language → String
  | go => "go"
  | java => "java"
  | python => "python"
  | typeScript => "typescript"
  | javaScript => "javascript"

def all : List Language := [go, java, python, typeScript, javaScript]

def ofId? (s : String) : Option Language := all.find? fun l => l.id == s

/-- The language whose rules are used: both script dialects share one set. -/
def family : Language → Language
  | javaScript => typeScript
  | language => language

def isScript (l : Language) : Bool := l.family == typeScript

/-- Extensions in lower case and the language a file with that extension is written in. -/
def extensions : List (String × Language) :=
  [("go", go), ("java", java), ("py", python), ("pyi", python),
   ("ts", typeScript), ("tsx", typeScript), ("mts", typeScript), ("cts", typeScript),
   ("js", javaScript), ("jsx", javaScript), ("mjs", javaScript), ("cjs", javaScript)]

def extensionOf? (path : Path) : Option String :=
  path.extension?.map fun e => String.ofList ((e.dropWhile (· == '.')).map Char.toLower)

def ofExtension? (e : String) : Option Language :=
  (extensions.find? fun entry => entry.1 == e).map Prod.snd

def ofPath? (path : Path) : Option Language := (extensionOf? path).bind ofExtension?

def usesMarkup (path : Path) : Bool :=
  extensionOf? path == some "tsx" || extensionOf? path == some "jsx"

def declarationKinds : Language → List String
  | go => ["function_declaration", "method_declaration", "type_spec", "type_alias"]
  | java => ["class_declaration", "record_declaration", "interface_declaration",
      "enum_declaration", "method_declaration", "constructor_declaration",
      "annotation_type_declaration"]
  | python => ["function_definition", "class_definition"]
  | typeScript | javaScript => ["function_declaration", "generator_function_declaration",
      "arrow_function", "method_definition", "class_declaration", "abstract_class_declaration",
      "interface_declaration", "type_alias_declaration"]

end Language
end CodeAtlas
