import CodeAtlas.Item.Basic
import CodeAtlas.Json.Record

/-!
Items as JSON: what is written for an item, and what is read as one.
-/
namespace CodeAtlas

def Json.ofOption {α : Type} (encode : α → Json) : Option α → Json
  | none => .null
  | some value => encode value

def Dependency.toJson (d : Dependency) : Json :=
  .object ([("name", .string d.name), ("kind", .string d.kind.name)] ++
    match d.target with
    | some target => [("targetId", .string target)]
    | none => [])

def Dependency.ofJson? (value : Json) : Option Dependency :=
  match value.record? ["name", "kind", "targetId"] with
  | some [name, kind, target] => do
    let name ← Json.required? Json.string? name
    let kind ← Json.required? (Json.named? DependencyKind.ofName?) kind
    let target ← Json.defaulted? none (Json.optional? Json.string?) target
    some ⟨name, kind, target⟩
  | _ => none

def Embedding.toJson (v : Embedding) : Json := .array (v.map fun x => .number (.single x))

def Embedding.ofJson? : Json → Option Embedding := Json.listOf? Json.single?

def Metadata.ofJson? : Json → Option Metadata
  | .object fields => some (Json.sortFields (Json.canonicalFields fields))
  | _ => none

namespace Item

def toJson (item : Item) : Json :=
  .object [
    ("id", .string item.id),
    ("type", .string item.kind.name),
    ("name", .string item.name),
    ("language", .string item.language.id),
    ("filePath", .string item.filePath),
    ("l0_code", .string item.code),
    ("l1_deps", .array (item.dependencies.map Dependency.toJson)),
    ("l2_desc", Json.ofOption .string item.description),
    ("l2_summary", Json.ofOption .string item.summary),
    ("l2_tags", Json.ofOption Json.ofStrings item.tags),
    ("vector", Json.ofOption Embedding.toJson item.vector),
    ("metadata", .object item.metadata)]

def fieldNames : List String :=
  ["id", "type", "name", "language", "filePath", "l0_code", "l1_deps", "l2_desc", "l2_summary",
   "l2_tags", "vector", "metadata"]

def ofJson? (value : Json) : Option Item :=
  match value.record? fieldNames with
  | some [id, kind, name, language, path, code, deps, desc, summary, tags, vector, metadata] => do
    let id ← Json.required? Json.string? id
    let kind ← Json.required? (Json.named? ItemKind.ofName?) kind
    let name ← Json.required? Json.string? name
    let language ← Json.required? (Json.named? Language.ofId?) language
    let path ← Json.required? Json.string? path
    let code ← Json.required? Json.string? code
    let deps ← Json.defaulted? [] (Json.listOf? Dependency.ofJson?) deps
    let desc ← Json.defaulted? none (Json.optional? Json.string?) desc
    let summary ← Json.defaulted? none (Json.optional? Json.string?) summary
    let tags ← Json.defaulted? none (Json.optional? (Json.listOf? Json.string?)) tags
    let vector ← Json.defaulted? none (Json.optional? Embedding.ofJson?) vector
    let metadata ← Json.defaulted? [] Metadata.ofJson? metadata
    some ⟨id, kind, name, language, path, code, deps, desc, summary, tags, vector, metadata⟩
  | _ => none

def ofText? (text : String) : Option Item :=
  match Json.ofText text with
  | .ok value => ofJson? value
  | .error _ => none

end Item
end CodeAtlas
