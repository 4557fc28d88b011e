import CodeAtlas.ParseFile
import CodeAtlas.Pipeline.Services

/-!
The first stage: finding files and extracting their items. A file that cannot be read is left out
and counted.
-/
namespace CodeAtlas

variable {State : Type}

structure Harvest where
  parsers : Parsers
  items : List Item := []
  filesParsed : Nat := 0
  filesFailed : Nat := 0

def Harvest.add (files : FileTree) (time : Timestamp) (root : Path) (h : Harvest) (path : Path) :
    Harvest :=
  match h.parsers.parse files time root path with
  | (.ok found, after) =>
    { h with parsers := after, items := h.items ++ found, filesParsed := h.filesParsed + 1 }
  | (.error _, after) => { h with parsers := after, filesFailed := h.filesFailed + 1 }

def parseAll (files : FileTree) (trees : TreeSource) (time : Timestamp) (root : Path)
    (paths : List Path) : Harvest :=
  paths.foldl (Harvest.add files time root) { parsers := { trees } }

def parsingEvents (root : Path) (paths : List Path) (items : Nat) : List ProgressEvent :=
  ProgressEvent.ofStage .parsing paths.length ("parsing " ++ toString paths.length ++ " files")
    (paths.zipIdx.map fun entry => (entry.2 + 1, String.ofList (entry.1.relativeTo root)))
    ("extracted " ++ toString items ++ " items")

def extractFrom (files : FileTree) (trees : TreeSource) (time : Timestamp) (root : Path)
    (paths : List Path) : ExtractedItems × List ProgressEvent :=
  let parsed := parseAll files trees time root paths
  ({ items := some parsed.items
     files := paths
     stats :=
      { filesDiscovered := paths.length
        filesParsed := parsed.filesParsed
        filesFailed := parsed.filesFailed
        itemsExtracted := parsed.items.length }
     finishedAt := time },
    parsingEvents root paths parsed.items.length)

def Discovery.extract (d : Discovery) (trees : TreeSource) (s : Services State) (state : State) :
    StageRun State ExtractedItems :=
  let files := s.files state
  match d.canonicalRoot files, d.resolve files with
  | .error fault, _ | .ok _, .error fault => ⟨.error (.discovery fault), [], state⟩
  | .ok root, .ok paths =>
    let found := extractFrom files trees (s.now state) root paths
    ⟨.ok found.1, found.2, state⟩

end CodeAtlas
