import CodeAtlas.Discovery.Resolve
import CodeAtlas.Item.Json
import CodeAtlas.Text.Quoted

/-!
Configuration of a run, with its defaults.
-/
namespace CodeAtlas

structure ProjectConfig where
  root : Path := .ofString "."
  /-- Starts from the root where it is relative. -/
  outputDirectory : Path := .ofString ".strata"
  patterns : List String := defaultPatterns
  ignores : List String := defaultIgnores
  selected : List Path := []
  excluded : List Path := []
  deriving DecidableEq, Repr

structure EnrichmentConfig where
  batchSize : Nat := 5
  delayMillis : Nat := 1000
  maxCodeChars : Nat := 4000
  deriving DecidableEq, Repr

structure VectorizationConfig where
  batchSize : Nat := 10
  delayMillis : Nat := 0
  /-- Found by a probe when it is not given. -/
  dimension : Option Nat := none
  deriving DecidableEq, Repr

structure IndexConfig where
  batchSize : Nat := 100
  fileName : String := "index.json"
  deriving DecidableEq, Repr

inductive ProviderKind where
  | ollama
  | openAi
  deriving DecidableEq, Repr

namespace ProviderKind

def name : ProviderKind → String
  | ollama => "ollama"
  | openAi => "openai"

def title : ProviderKind → String
  | ollama => "Ollama"
  | openAi => "OpenAi"

def ofName? (s : String) : Option ProviderKind := [ollama, openAi].find? fun k => k.name == s

end ProviderKind

structure ProviderConfig where
  kind : ProviderKind := .ollama
  baseUrl : String := "http://localhost:11434"
  model : String := "qwen3:8b"
  embeddingModel : String := "nomic-embed-text"
  maxTokens : Nat := 4096
  maxRetries : Nat := 3
  /-- Never shown and never written. -/
  apiKey : Option String := none
  deriving DecidableEq, Repr

structure Config where
  project : ProjectConfig := {}
  /-- Whether syntax trees are used where there are any. -/
  usesTrees : Bool := true
  enrichment : EnrichmentConfig := {}
  vectorization : VectorizationConfig := {}
  index : IndexConfig := {}
  provider : ProviderConfig := {}
  deriving DecidableEq, Repr

namespace ProjectConfig

def resolvedOutput (p : ProjectConfig) : Path :=
  if p.outputDirectory.isAbsolute then p.outputDirectory else p.root.join p.outputDirectory

def discovery (p : ProjectConfig) : Discovery :=
  ⟨p.root, p.selected, p.excluded, p.patterns, p.ignores⟩

def toJson (p : ProjectConfig) : Json :=
  .object [("root", .string p.root.toString), ("output_dir", .string p.outputDirectory.toString),
    ("include", .ofStrings p.patterns), ("ignore", .ofStrings p.ignores),
    ("files", .ofStrings (p.selected.map Path.toString)),
    ("exclude", .ofStrings (p.excluded.map Path.toString))]

end ProjectConfig

namespace ProviderConfig

def toJson (p : ProviderConfig) : Json :=
  .object [("provider", .string p.kind.name), ("base_url", .string p.baseUrl),
    ("model", .string p.model), ("embedding_model", .string p.embeddingModel),
    ("max_tokens", .ofNat p.maxTokens), ("max_retries", .ofNat p.maxRetries)]

/-- A line about the configuration; of the key it only says whether there is one. -/
def describe (p : ProviderConfig) : String :=
  "LlmConfig \x7b provider: " ++ p.kind.title ++ ", base_url: " ++ Text.quoted p.baseUrl ++
    ", model: " ++ Text.quoted p.model ++ ", embedding_model: " ++ Text.quoted p.embeddingModel ++
    ", max_tokens: " ++ toString p.maxTokens ++ ", max_retries: " ++ toString p.maxRetries ++
    ", api_key: " ++ (if p.apiKey.isSome then "Some(\"[REDACTED]\")" else "None") ++ " \x7d"

end ProviderConfig

namespace Config

def indexPath (c : Config) : Path := c.project.resolvedOutput.join (.ofString c.index.fileName)

def toJson (c : Config) : Json :=
  .object [
    ("project", c.project.toJson),
    ("parsing", .object [("ast", .bool c.usesTrees)]),
    ("enrichment", .object [("batch_size", .ofNat c.enrichment.batchSize),
      ("delay_ms", .ofNat c.enrichment.delayMillis),
      ("max_code_chars", .ofNat c.enrichment.maxCodeChars)]),
    ("vectorization", .object [("batch_size", .ofNat c.vectorization.batchSize),
      ("delay_ms", .ofNat c.vectorization.delayMillis),
      ("dimension", Json.ofOption .ofNat c.vectorization.dimension)]),
    ("index", .object [("batch_size", .ofNat c.index.batchSize),
      ("file_name", .string c.index.fileName)]),
    ("llm", c.provider.toJson)]

end Config
end CodeAtlas
