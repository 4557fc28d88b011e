import CodeAtlas.CommandLine.Request
import CodeAtlas.Pipeline.Standard
import CodeAtlas.Provider.Configured

/-!
Commands at work: what they print, how they end, and the files they leave.
-/
namespace CodeAtlas.CommandLine

inductive CommandFault where
  | config (fault : ConfigFault)
  | unreadableIndex (path : Path)
  | unreadableEntries
  | inaccessible (file : Path)
  | unparsed (file : Path)
  | noEmbedding
  | provider (fault : ProviderFault)
  | service (fault : ServiceFault)
  | pipeline (fault : PipelineFault)
  deriving DecidableEq, Repr

namespace CommandFault

def message : CommandFault → String
  | config fault => fault.message
  | unreadableIndex path => "failed to load index " ++ path.toString
  | unreadableEntries => "failed to load index entries"
  | inaccessible file => "cannot access " ++ file.toString
  | unparsed file => "failed to parse " ++ file.toString
  | noEmbedding => "provider returned no embedding for the query"
  | provider fault => fault.message
  | service fault => fault.message
  | pipeline fault => fault.message

/-- An address that is none ends the program out of turn. -/
def exitCode : CommandFault → Nat
  | config (.badAddress _) => 101
  | _ => 1

end CommandFault

structure Setting (World : Type) where
  environment : Environment
  time : Timestamp
  trees : TreeSource
  connection : Connection World
  /-- Waits a number of milliseconds. -/
  pause : Nat → World → World

structure CommandRun (World : Type) where
  outcome : Except CommandFault String
  files : FileTree
  world : World

variable {World : Type}

def asLines (texts : List String) : String := String.join (texts.map fun text => text ++ "\n")

/-! Indexing -/

def Command.adjust (root : Option Path) (files excluded : List Path) (c : Config) : Config :=
  { c with
    project := { c.project with
      root := root.getD c.project.root
      selected := if files.isEmpty then c.project.selected else files
      excluded := c.project.excluded ++ excluded } }

def savedLines : Option SavedIndex → List String
  | some saved =>
    ["index: " ++ saved.indexPath.toString, "entries: " ++ saved.entriesPath.toString]
  | none => []

def indexReport (results : StageResults) : String :=
  asLines (results.outputs.map (fun output =>
    output.stage.name ++ ": " ++ output.statsJson.toCompact) ++ savedLines results.saved)

def runIndex (s : Setting World) (c : Config) (files : FileTree) (world : World) :
    CommandRun World :=
  match c.provider.client with
  | .error fault => ⟨.error (.config fault), files, world⟩
  | .ok client =>
    let pipeline := c.pipeline s.trees (client.provider s.connection) s.pause
    let done := pipeline.run { world := world, files := files, time := s.time }
    let outcome :=
      match done.outcome with
      | .ok results => .ok (indexReport results)
      | .error fault => .error (.pipeline fault)
    ⟨outcome, done.state.files, done.state.world⟩

/-! Searching -/

def hitLine? (entries : List IndexEntry) (hit : Hit) : Option String :=
  entries[hit.ordinal]?.map fun entry =>
    String.ofList (Decimal.fixedText 4 hit.score) ++ "  " ++ entry.id ++ "  " ++ entry.kind.name ++
      "  " ++ entry.filePath

def queryVector (p : Provider World) (query : String) (world : World) :
    Except CommandFault Embedding × World :=
  match p.embed [query] world with
  | (.error fault, after) => (.error (.provider fault), after)
  | (.ok [], after) => (.error .noEmbedding, after)
  | (.ok (vector :: _), after) => (.ok vector, after)

def report (index : FlatIndex) (entries : List IndexEntry) (count : Nat) (query : Embedding) :
    Except CommandFault String :=
  match index.search query count with
  | .ok hits => .ok (asLines (hits.filterMap (hitLine? entries)))
  | .error fault => .error (.service fault)

def loadSaved (c : Config) (files : FileTree) :
    Except CommandFault (FlatIndex × List IndexEntry) :=
  match FlatIndex.load files c.indexPath with
  | .error _ => .error (.unreadableIndex c.indexPath)
  | .ok index =>
    match loadEntries files (entriesPath c.indexPath) with
    | .error _ => .error .unreadableEntries
    | .ok entries => .ok (index, entries)

def runSearch (s : Setting World) (c : Config) (query : String) (count : Nat) (files : FileTree)
    (world : World) : CommandRun World :=
  match loadSaved c files with
  | .error fault => ⟨.error fault, files, world⟩
  | .ok (index, entries) =>
    match c.provider.client with
    | .error fault => ⟨.error (.config fault), files, world⟩
    | .ok client =>
      let asked := queryVector (client.provider s.connection) query world
      ⟨asked.1.bind (report index entries count), files, asked.2⟩

/-! Parsing -/

def parseOne (s : Setting World) (trees : TreeSource) (files : FileTree) (root file : Path) :
    Except CommandFault (List Item) :=
  match files.canonical file with
  | .error _ => .error (.inaccessible file)
  | .ok path =>
    match parseFile files trees s.time root path with
    | .error _ => .error (.unparsed file)
    | .ok items => .ok items

/-- Items of files, in the order of the files, up to the first that cannot be parsed. -/
def parseEach (s : Setting World) (trees : TreeSource) (files : FileTree) (root : Path) :
    List Path → Except CommandFault (List Item)
  | [] => .ok []
  | file :: rest =>
    match parseOne s trees files root file with
    | .error fault => .error fault
    | .ok items =>
      match parseEach s trees files root rest with
      | .error fault => .error fault
      | .ok others => .ok (items ++ others)

def runParse (s : Setting World) (c : Config) (paths : List Path) (usesTrees : Bool)
    (files : FileTree) : Except CommandFault String :=
  let trees := if c.usesTrees && usesTrees then s.trees else noTrees
  let root :=
    match files.canonical c.project.root with
    | .ok canonical => canonical
    | .error _ => c.project.root
  (parseEach s trees files root paths).map fun items =>
    asLines [Json.toPretty (.array (items.map Item.toJson))]

/-! The program -/

def Command.run (s : Setting World) (c : Config) (files : FileTree) (world : World) :
    Command → CommandRun World
  | .index root selected excluded =>
    runIndex s (Command.adjust root selected excluded c) files world
  | .search query count => runSearch s c query count files world
  | .parse paths usesTrees => ⟨runParse s c paths usesTrees files, files, world⟩

def Request.run (s : Setting World) (r : Request) (files : FileTree) (world : World) :
    CommandRun World :=
  match Config.load files s.environment (r.configPath s.environment) with
  | .error fault => ⟨.error (.config fault), files, world⟩
  | .ok config => r.command.run s config files world

structure Ending where
  code : Nat
  output : String := ""
  complaint : String := ""
  files : FileTree

def usage : String :=
  "Usage: strata [--config FILE] index [--root DIR] [--file FILE]... [--exclude FILE]...\n" ++
  "       strata [--config FILE] search QUERY [-k COUNT]\n" ++
  "       strata [--config FILE] parse FILE... [--no-ast]\n"

def versionText : String := "strata 0.1.0\n"

def Stop.ending (files : FileTree) : Stop → Ending
  | .help => { code := 0, output := usage, files := files }
  | .version => { code := 0, output := versionText, files := files }
  | .fault reason =>
    { code := 2, complaint := "error: " ++ reason.message ++ "\n\n" ++ usage, files := files }

def CommandRun.ending (r : CommandRun World) : Ending :=
  match r.outcome with
  | .ok output => { code := 0, output := output, files := r.files }
  | .error fault =>
    { code := fault.exitCode, complaint := "Error: " ++ fault.message ++ "\n", files := r.files }

def runProgram (s : Setting World) (arguments : List String) (files : FileTree) (world : World) :
    Ending :=
  match Request.ofArguments arguments with
  | .error stop => stop.ending files
  | .ok request => (request.run s files world).ending

end CodeAtlas.CommandLine
