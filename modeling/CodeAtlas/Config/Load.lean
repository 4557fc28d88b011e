import CodeAtlas.Config.Decode
import CodeAtlas.Text.Natural

/-!
The configuration in force: a file, where it exists, with the environment's settings over it.
-/
namespace CodeAtlas

abbrev Environment := List (String × String)

namespace Environment

def get? (env : Environment) (name : String) : Option String :=
  (env.find? fun entry => entry.1 == name).map Prod.snd

def bool? (s : String) : Option Bool :=
  if s = "true" then some true else if s = "false" then some false else none

end Environment

inductive ConfigFault where
  | unreadable
  | malformed
  | zeroBatchSize (name : String)
  | zeroDimension
  | emptyFileName
  | missingApiKey
  | badAddress (url : String)
  deriving DecidableEq, Repr

def ConfigFault.message : ConfigFault → String
  | unreadable => "failed to read config file"
  | malformed => "failed to parse config file"
  | zeroBatchSize name => name ++ ".batch_size must be greater than zero"
  | zeroDimension => "vectorization.dimension must be greater than zero"
  | emptyFileName => "index.file_name must not be empty"
  | missingApiKey => "llm.provider = \"openai\" requires STRATA_LLM_API_KEY"
  | badAddress url => "no address: " ++ url

namespace Config

/-- Takes settings from the environment; those that cannot be read do not count. -/
def withEnvironment (c : Config) (env : Environment) : Config :=
  let get := env.get?
  let word (name : String) := (get name).bind fun s => Text.natural? Text.wordBound s.toList
  { project := { c.project with
      root := ((get "STRATA_ROOT").map Path.ofString).getD c.project.root
      outputDirectory :=
        ((get "STRATA_OUTPUT_DIR").map Path.ofString).getD c.project.outputDirectory }
    usesTrees := ((get "STRATA_PARSING_AST").bind Environment.bool?).getD c.usesTrees
    enrichment := { c.enrichment with
      delayMillis := (word "STRATA_ENRICHMENT_DELAY_MS").getD c.enrichment.delayMillis }
    vectorization := { c.vectorization with
      delayMillis := (word "STRATA_VECTORIZATION_DELAY_MS").getD c.vectorization.delayMillis
      dimension := (word "STRATA_VECTOR_DIMENSION").or c.vectorization.dimension }
    index := c.index
    provider := { c.provider with
      kind := ((get "STRATA_LLM_PROVIDER").bind ProviderKind.ofName?).getD c.provider.kind
      baseUrl := (get "STRATA_LLM_BASE_URL").getD c.provider.baseUrl
      model := (get "STRATA_LLM_MODEL").getD c.provider.model
      embeddingModel := (get "STRATA_LLM_EMBEDDING_MODEL").getD c.provider.embeddingModel
      apiKey := (get "STRATA_LLM_API_KEY").or c.provider.apiKey } }

def problem? (c : Config) : Option ConfigFault :=
  if c.enrichment.batchSize = 0 then some (.zeroBatchSize "enrichment")
  else if c.vectorization.batchSize = 0 then some (.zeroBatchSize "vectorization")
  else if c.index.batchSize = 0 then some (.zeroBatchSize "index")
  else if c.vectorization.dimension = some 0 then some .zeroDimension
  else if Text.allBlank c.index.fileName.toList then some .emptyFileName
  else none

def validate (c : Config) : Except ConfigFault Config :=
  match c.problem? with
  | none => .ok c
  | some fault => .error fault

def ofFile (files : FileTree) (path : Path) : Except ConfigFault Config :=
  if files.exists? path then
    match files.readText path with
    | .error _ => .error .unreadable
    | .ok text =>
      match ofText? text with
      | some config => .ok config
      | none => .error .malformed
  else .ok {}

def load (files : FileTree) (env : Environment) (path : Path) : Except ConfigFault Config :=
  match ofFile files path with
  | .error fault => .error fault
  | .ok config => (config.withEnvironment env).validate

end Config
end CodeAtlas
