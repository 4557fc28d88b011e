import CodeAtlas.Pipeline.Run

/-!
The services a configuration asks for: names for dependencies, a provider for descriptions and
vectors, and a flat index.
-/
namespace CodeAtlas

/-- What a run knows and changes. The world is that of its provider. -/
structure RunState (World : Type) where
  world : World
  files : FileTree
  time : Timestamp
  analyzer : Symbols.Analyzer := {}
  dimension : Option Nat := none
  builder : IndexBuilder := {}

namespace RunState

variable {World : Type}

def withVectorizer {α : Type} (state : RunState World)
    (work : VectorizerState World → α × VectorizerState World) : α × RunState World :=
  let done := work ⟨state.dimension, state.world⟩
  (done.1, { state with dimension := done.2.dimension, world := done.2.world })

def updateBuilder (state : RunState World) :
    Except ServiceFault IndexBuilder → Except ServiceFault Unit × RunState World
  | .ok builder => (.ok (), { state with builder := builder })
  | .error fault => (.error fault, state)

def saveIndex (path : Path) (state : RunState World) : Except ServiceFault Path × RunState World :=
  let saved := state.builder.save path state.files
  (saved.1.map fun _ => path, { state with files := saved.2 })

def writeText (path : Path) (text : String) (state : RunState World) :
    Except FileFault Unit × RunState World :=
  match state.files.write path text.toUTF8 with
  | .ok files => (.ok (), { state with files := files })
  | .error fault => (.error fault, state)

end RunState

namespace Services

variable {World : Type}

def enrichWith (e : Enricher World) (items : List Item) (state : RunState World) :
    Except ServiceFault (List Enrichment) × RunState World :=
  let asked := e.enrich items state.world
  (asked.1, { state with world := asked.2 })

/-- `wait` is how the world waits a number of milliseconds. -/
def standard (e : Enricher World) (v : Vectorizer World) (indexPath : Path)
    (wait : Nat → World → World) : Services (RunState World) where
  now := RunState.time
  files := RunState.files
  prepare items state := { state with analyzer := .prepare items }
  dependencies item all state := (.ok (state.analyzer.dependencies item all), state)
  graph items state := (.ofItems items, state)
  enrich := enrichWith e
  startVectors state := state.withVectorizer v.start
  embed texts state := state.withVectorizer (v.embed texts)
  startIndex dimension state := state.updateBuilder (IndexBuilder.start dimension)
  addVectors first vectors state := state.updateBuilder (state.builder.add first vectors)
  optimizeIndex state := state.updateBuilder (.ok state.builder.optimize)
  saveIndex := RunState.saveIndex indexPath
  writeText := RunState.writeText
  pause millis state := { state with world := wait millis state.world }

end Services

namespace Config

variable {World : Type}

def services (c : Config) (provider : Provider World) (wait : Nat → World → World) :
    Services (RunState World) :=
  .standard ⟨provider, c.enrichment.maxCodeChars⟩ ⟨provider, c.vectorization.dimension⟩ c.indexPath
    wait

def pipeline (c : Config) (trees : TreeSource) (provider : Provider World)
    (wait : Nat → World → World) : Pipeline (RunState World) where
  discovery := c.project.discovery
  trees := if c.usesTrees then trees else noTrees
  settings := c.settings
  services := c.services provider wait

end Config
end CodeAtlas
