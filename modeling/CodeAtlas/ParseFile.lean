import CodeAtlas.Extraction
import CodeAtlas.FileTree
import CodeAtlas.RuleBook

/-!
Items of files: a file's extension chooses the rules and the grammar, its path below the root of the
project names it.
-/
namespace CodeAtlas

inductive ParseFault where
  | unsupported (path : Path)
  | unreadable (path : Path) (fault : FileFault)
  deriving DecidableEq, Repr

def ParseFault.message : ParseFault → String
  | unsupported path => unsupportedMessage path
  | unreadable path fault => "failed to read " ++ path.toString ++ ": " ++ fault.message

/-- Gives the syntax tree of the text that lies at a path, if there is one. -/
abbrev TreeSource := Path → Line → Option Node

def noTrees : TreeSource := fun _ _ => none

/-- What grammars are for. TypeScript has one for files with markup and one for those without. -/
inductive Dialect where
  | go
  | java
  | python
  | typeScript
  | markup
  deriving DecidableEq, Repr

def Dialect.of (language : Language) (path : Path) : Dialect :=
  match language with
  | .go => .go
  | .java => .java
  | .python => .python
  | .typeScript | .javaScript => if Language.usesMarkup path then .markup else .typeScript

/-- The parsers all files share. A grammar is loaded for the first file that asks for it, and kept as
it was then. -/
structure Parsers where
  trees : TreeSource
  loaded : List (Dialect × TreeSource) := []

namespace Parsers

def grammar (p : Parsers) (dialect : Dialect) : TreeSource × Parsers :=
  match p.loaded.lookup dialect with
  | some grammar => (grammar, p)
  | none => (p.trees, { p with loaded := (dialect, p.trees) :: p.loaded })

def parse (p : Parsers) (files : FileTree) (extractedAt : Timestamp) (root path : Path) :
    Except ParseFault (List Item) × Parsers :=
  match rulesFor? path with
  | none => (.error (.unsupported path), p)
  | some language =>
    match files.readText path with
    | .error fault => (.error (.unreadable path fault), p)
    | .ok text =>
      let source := text.toList
      let relative := String.ofList (path.relativeTo root)
      let asked := p.grammar (.of language (.ofString relative))
      (.ok (extractItems language relative source (asked.1 path source) extractedAt), asked.2)

end Parsers

def parseFile (files : FileTree) (trees : TreeSource) (extractedAt : Timestamp) (root path : Path) :
    Except ParseFault (List Item) :=
  (Parsers.parse { trees } files extractedAt root path).1

end CodeAtlas
