import CodeAtlas.Item.Basic
import CodeAtlas.Item.Timestamp

/-!
Declarations as they are found in a file, the ids they get, and the items made of them.
-/
namespace CodeAtlas

def isIdentifierChar (c : Char) : Bool := c.isAlphanum || c == '_'

/-- Everything but ASCII letters, digits and the underscore becomes an underscore. -/
def sanitize (s : String) : String :=
  String.ofList (s.toList.map fun c => if isIdentifierChar c then c else '_')

/-- An item's id: file stem, name and first line. Equal ids can come from files of the same stem. -/
def deriveId (stem name : String) (startLine : Nat) : String :=
  sanitize stem ++ "." ++ sanitize name ++ "_L" ++ toString startLine

/-- A declaration with its 1-based first and last line. -/
structure Construct where
  kind : ItemKind
  name : String
  startLine : Nat
  endLine : Nat
  code : String
  metadata : Metadata := []
  deriving DecidableEq, Repr

namespace Construct

def set (c : Construct) (key : String) (value : Json) : Construct :=
  { c with metadata := Json.insertField key value c.metadata }

def setFlag (c : Construct) (key : String) (value : Bool) : Construct := c.set key (.bool value)

def setOption (c : Construct) (key : String) : Option String → Construct
  | some value => c.set key (.string value)
  | none => c

def setList (c : Construct) (key : String) (values : List String) : Construct :=
  if values.isEmpty then c else c.set key (Json.ofStrings values)

end Construct

structure SourceFile where
  path : String
  stem : String
  language : Language
  extractedAt : Timestamp
  deriving DecidableEq, Repr

namespace SourceFile

def ofPath (path : String) (language : Language) (extractedAt : Timestamp) : SourceFile :=
  { path := String.ofList (Text.replace '\\' '/' path.toList)
    stem := String.ofList ((Path.ofString path).fileStem?.getD [])
    language := language
    extractedAt := extractedAt }

/-- The attributes every item carries, which win over those of the declaration. -/
def attributes (file : SourceFile) (c : Construct) : Metadata :=
  let c := c.set "startLine" (.ofNat c.startLine)
  let c := c.set "endLine" (.ofNat c.endLine)
  let c := c.set "sourceLength" (.ofNat c.code.utf8ByteSize)
  (c.set "extractedAt" (.string file.extractedAt.toText)).metadata

def item (file : SourceFile) (c : Construct) : Item :=
  { id := deriveId file.stem c.name c.startLine
    kind := c.kind
    name := c.name
    language := file.language
    filePath := file.path
    code := c.code
    metadata := file.attributes c }

end SourceFile
end CodeAtlas
