import CodeAtlas.Outline.TypeScript
import CodeAtlas.SyntaxTree.Go
import CodeAtlas.SyntaxTree.Java
import CodeAtlas.SyntaxTree.Python
import CodeAtlas.SyntaxTree.TypeScript

/-!
Extraction of items from a source file: from its syntax tree where there is one, line by line
otherwise. The language of the file's family decides the rules, the file's own extension the
language its items carry.
-/
namespace CodeAtlas

namespace Language

def outline : Language → Line → List Construct
  | go => Outline.Go.outline
  | java => Outline.Java.outline
  | python => Outline.Python.outline
  | typeScript | javaScript => Outline.TypeScript.outline

def construct? : Language → Line → Site → Option Construct
  | go => SyntaxTree.Go.construct?
  | java => SyntaxTree.Java.construct?
  | python => SyntaxTree.Python.construct?
  | typeScript | javaScript => SyntaxTree.TypeScript.construct?

def constructs (language : Language) (source : Line) : Option Node → List Construct
  | some root => SyntaxTree.constructs language.declarationKinds (language.construct? source) root
  | none => language.outline source

end Language

/-- The items of a text that lies at `path`, by the rules of `language`. -/
def extractItems (language : Language) (path : String) (source : Line) (tree : Option Node)
    (extractedAt : Timestamp) : List Item :=
  let spoken := (Language.ofPath? (Path.ofString path)).getD language
  let file := SourceFile.ofPath path spoken extractedAt
  (language.constructs source tree).map file.item

end CodeAtlas
