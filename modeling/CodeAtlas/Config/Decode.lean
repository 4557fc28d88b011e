import CodeAtlas.Config.Basic
import CodeAtlas.Text.Natural
import CodeAtlas.Toml.Reader

/-!
Configuration read from a file. A section is a table of its fields, or an array of them in order;
fields that are left out have their defaults.
-/
namespace CodeAtlas

namespace Toml

def fields? (names : List String) : Toml → Option (List (Option Toml))
  | .table _ entries => some (names.map fun name => find? name entries)
  | .array elements | .tables elements =>
    some ((elements.map some ++ List.replicate names.length none).take names.length)
  | _ => none

def defaulted? {α : Type} (fallback : α) (value? : Toml → Option α) : Option Toml → Option α
  | none => some fallback
  | some value => value? value

def string? : Toml → Option String
  | .string s => some s
  | _ => none

def path? (value : Toml) : Option Path := (string? value).map Path.ofString

def bool? : Toml → Option Bool
  | .bool b => some b
  | _ => none

def natBelow? (bound : Nat) : Toml → Option Nat
  | .integer n => if 0 ≤ n ∧ n < bound then some n.toNat else none
  | _ => none

def word? : Toml → Option Nat := natBelow? Text.wordBound

def halfWord? : Toml → Option Nat := natBelow? Text.halfWordBound

def listOf? {α : Type} (element? : Toml → Option α) : Toml → Option (List α)
  | .array elements | .tables elements => elements.mapM element?
  | _ => none

end Toml

open Toml

def ProviderKind.ofToml? : Toml → Option ProviderKind
  | .string s => ofName? s
  | .table _ [(s, .table _ [])] | .table _ [(s, .array [])] => ofName? s
  | _ => none

def ProjectConfig.ofToml? (value : Toml) : Option ProjectConfig :=
  let d : ProjectConfig := {}
  match value.fields? ["root", "output_dir", "include", "ignore", "files", "exclude"] with
  | some [root, output, patterns, ignores, selected, excluded] => do
    let root ← defaulted? d.root path? root
    let output ← defaulted? d.outputDirectory path? output
    let patterns ← defaulted? d.patterns (listOf? string?) patterns
    let ignores ← defaulted? d.ignores (listOf? string?) ignores
    let selected ← defaulted? d.selected (listOf? path?) selected
    let excluded ← defaulted? d.excluded (listOf? path?) excluded
    some ⟨root, output, patterns, ignores, selected, excluded⟩
  | _ => none

def Config.treesOfToml? (value : Toml) : Option Bool :=
  match value.fields? ["ast"] with
  | some [trees] => defaulted? true bool? trees
  | _ => none

def EnrichmentConfig.ofToml? (value : Toml) : Option EnrichmentConfig :=
  let d : EnrichmentConfig := {}
  match value.fields? ["batch_size", "delay_ms", "max_code_chars"] with
  | some [size, delay, chars] => do
    let size ← defaulted? d.batchSize word? size
    let delay ← defaulted? d.delayMillis word? delay
    let chars ← defaulted? d.maxCodeChars word? chars
    some ⟨size, delay, chars⟩
  | _ => none

def VectorizationConfig.ofToml? (value : Toml) : Option VectorizationConfig :=
  let d : VectorizationConfig := {}
  match value.fields? ["batch_size", "delay_ms", "dimension"] with
  | some [size, delay, dimension] => do
    let size ← defaulted? d.batchSize word? size
    let delay ← defaulted? d.delayMillis word? delay
    let dimension ← defaulted? d.dimension (fun v => (word? v).map some) dimension
    some ⟨size, delay, dimension⟩
  | _ => none

def IndexConfig.ofToml? (value : Toml) : Option IndexConfig :=
  let d : IndexConfig := {}
  match value.fields? ["batch_size", "file_name"] with
  | some [size, name] => do
    let size ← defaulted? d.batchSize word? size
    let name ← defaulted? d.fileName string? name
    some ⟨size, name⟩
  | _ => none

def ProviderConfig.ofToml? (value : Toml) : Option ProviderConfig :=
  let d : ProviderConfig := {}
  match value.fields? ["provider", "base_url", "model", "embedding_model", "max_tokens",
      "max_retries", "api_key"] with
  | some [kind, url, model, embedding, tokens, retries, key] => do
    let kind ← defaulted? d.kind ProviderKind.ofToml? kind
    let url ← defaulted? d.baseUrl string? url
    let model ← defaulted? d.model string? model
    let embedding ← defaulted? d.embeddingModel string? embedding
    let tokens ← defaulted? d.maxTokens halfWord? tokens
    let retries ← defaulted? d.maxRetries halfWord? retries
    let key ← defaulted? d.apiKey (fun v => (string? v).map some) key
    some ⟨kind, url, model, embedding, tokens, retries, key⟩
  | _ => none

def Config.ofToml? (value : Toml) : Option Config :=
  match value.fields? ["project", "parsing", "enrichment", "vectorization", "index", "llm"] with
  | some [project, parsing, enrichment, vectorization, index, provider] => do
    let project ← defaulted? {} ProjectConfig.ofToml? project
    let trees ← defaulted? true Config.treesOfToml? parsing
    let enrichment ← defaulted? {} EnrichmentConfig.ofToml? enrichment
    let vectorization ← defaulted? {} VectorizationConfig.ofToml? vectorization
    let index ← defaulted? {} IndexConfig.ofToml? index
    let provider ← defaulted? {} ProviderConfig.ofToml? provider
    some ⟨project, trees, enrichment, vectorization, index, provider⟩
  | _ => none

def Config.ofText? (text : String) : Option Config := (Toml.read? text).bind Config.ofToml?

end CodeAtlas
