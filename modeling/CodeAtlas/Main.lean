import CodeAtlas.CommandLine.Execute
import Std.Time.DateTime

/-!
The program. The files it may need are read before it starts, and those that it wrote are put on
disk once it has ended. No server is reached from here, and no syntax trees are at hand.
-/
namespace CodeAtlas.CommandLine

def settingNames : List String :=
  ["STRATA_CONFIG", "STRATA_ROOT", "STRATA_OUTPUT_DIR", "STRATA_PARSING_AST",
   "STRATA_ENRICHMENT_DELAY_MS", "STRATA_VECTORIZATION_DELAY_MS", "STRATA_VECTOR_DIMENSION",
   "STRATA_LLM_PROVIDER", "STRATA_LLM_BASE_URL", "STRATA_LLM_MODEL", "STRATA_LLM_EMBEDDING_MODEL",
   "STRATA_LLM_API_KEY"]

def readEnvironment : IO Environment := do
  let found ← settingNames.mapM fun name => do return (name, ← IO.getEnv name)
  return found.filterMap fun entry => entry.2.map fun value => (entry.1, value)

def locationOf (path : String) : Location :=
  (Text.splitOn '/' path.toList).filter fun name => !name.isEmpty

def readPlace (files : FileTree) (place : String) : IO FileTree := do
  let some root ← (some <$> IO.FS.realPath place) <|> pure none | return files
  let below ← if ← root.isDir then root.walkDir else pure #[]
  (#[root] ++ below).foldlM
    (fun files path => do
      let location := locationOf path.toString
      if ← path.isDir then return files.withDirectories [] location
      return files.withFile location (← IO.FS.readBinFile path))
    files

/-- Where the excludes of a user lie whose configuration names no other file for them. -/
def excludesPlace : IO (Option String) := do
  let settings := (← IO.getEnv "XDG_CONFIG_HOME").filter fun place => !place.isEmpty
  let home := (← IO.getEnv "HOME").map (· ++ "/.config")
  return (settings <|> home).map (· ++ "/git/ignore")

def readExcludes (directory : String) (files : FileTree) : IO FileTree := do
  let some place ← excludesPlace | return files
  let some file ← (some <$> IO.FS.realPath place) <|> pure none | return files
  let excludes : GlobalExcludes := { file := locationOf file.toString, anchor := directory.toList }
  return { ← readPlace files place with globalExcludes := some excludes }

def configuredPlaces (arguments : List String) (environment : Environment) (files : FileTree) :
    List String :=
  match Request.ofArguments arguments with
  | .error _ => []
  | .ok request =>
    match Config.load files environment (request.configPath environment) with
    | .error _ => []
    | .ok config => [config.project.root.toString, config.project.resolvedOutput.toString]

def readFiles (arguments : List String) (environment : Environment) : IO FileTree := do
  let directory := (← IO.currentDir).toString
  let named := directory :: arguments ++ environment.map Prod.snd
  let files ← named.foldlM readPlace { workingDirectory := locationOf directory }
  let files ← readExcludes directory files
  (configuredPlaces arguments environment files).foldlM readPlace files

def writeEntry (location : Location) : Entry → IO Unit
  | .directory => IO.FS.createDirAll (FileTree.pathOf location).toString
  | .file content => IO.FS.writeBinFile (FileTree.pathOf location).toString content

def holds (files : FileTree) (location : Location) (entry : Entry) : Bool :=
  match files.lookup? location, entry with
  | some .directory, .directory => true
  | some (.file old), .file new => old.data == new.data
  | _, _ => false

def writeChanges (before after : FileTree) : IO Unit :=
  (after.entries.filter fun e => !holds before e.1 e.2).forM fun e => writeEntry e.1 e.2

def now : IO Timestamp := do
  let instant ← Std.Time.Timestamp.now
  return ⟨instant.toSecondsSinceUnixEpoch.val, instant.val.nano.val.toNat⟩

end CodeAtlas.CommandLine

open CodeAtlas CodeAtlas.CommandLine in
def main (arguments : List String) : IO UInt32 := do
  let environment ← readEnvironment
  let files ← readFiles arguments environment
  let setting : Setting Unit :=
    { environment := environment
      time := ← now
      trees := noTrees
      connection := .unreachable Unit
      pause := fun _ world => world }
  let ending := runProgram setting arguments files ()
  writeChanges files ending.files
  IO.print ending.output
  IO.eprint ending.complaint
  return UInt32.ofNat ending.code
