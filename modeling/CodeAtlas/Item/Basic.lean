import CodeAtlas.Json.Value
import CodeAtlas.Language

/-!
Items: one record for each declaration found in a source file. The source text is its first
layer; dependencies, a description with summary and tags, and a vector are added later.
-/
namespace CodeAtlas

inductive ItemKind where
  | function
  | method
  | «class»
  | struct
  | interface
  | type
  | enum
  | constructor
  | annotationType
  deriving DecidableEq, Repr

namespace ItemKind

def name : ItemKind → String
  | function => "function"
  | method => "method"
  | «class» => "class"
  | struct => "struct"
  | interface => "interface"
  | type => "type"
  | enum => "enum"
  | constructor => "constructor"
  | annotationType => "annotation"

def all : List ItemKind :=
  [function, method, «class», struct, interface, type, enum, constructor, annotationType]

def ofName? (s : String) : Option ItemKind := all.find? fun k => k.name == s

def isType : ItemKind → Bool
  | «class» | interface | enum | annotationType => true
  | _ => false

end ItemKind

inductive DependencyKind where
  | call
  | inheritance
  | reference
  deriving DecidableEq, Repr

namespace DependencyKind

def name : DependencyKind → String
  | call => "call"
  | inheritance => "inheritance"
  | reference => "reference"

def all : List DependencyKind := [call, inheritance, reference]

def ofName? (s : String) : Option DependencyKind := all.find? fun k => k.name == s

end DependencyKind

/-- A symbol as written in an item's source, and the id of the item it stands for, if known. -/
structure Dependency where
  name : String
  kind : DependencyKind
  target : Option String
  deriving DecidableEq, Repr

abbrev Embedding := List Float32

/-- Attributes sorted by name. -/
abbrev Metadata := List (String × Json)

namespace Metadata

def get? (m : Metadata) (key : String) : Option Json :=
  (m.find? fun entry => entry.1 == key).map Prod.snd

/-- A number that fits a word; anything else counts as zero. -/
def line (m : Metadata) (key : String) : Nat :=
  match m.get? key with
  | some (.number (.int n)) => n.toNat
  | _ => 0

end Metadata

structure Item where
  id : String
  kind : ItemKind
  name : String
  language : Language
  filePath : String
  code : String
  dependencies : List Dependency := []
  description : Option String := none
  summary : Option String := none
  tags : Option (List String) := none
  vector : Option Embedding := none
  metadata : Metadata := []
  deriving DecidableEq, Repr

namespace Item

def startLine (item : Item) : Nat := item.metadata.line "startLine"

def endLine (item : Item) : Nat := item.metadata.line "endLine"

end Item
end CodeAtlas
