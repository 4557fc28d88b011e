import CodeAtlas.Item.Json

/-!
Index entries: which item each vector of an index was computed from.
-/
namespace CodeAtlas

structure IndexEntry where
  ordinal : Nat
  id : String
  kind : ItemKind
  language : Language
  filePath : String
  deriving DecidableEq, Repr

namespace IndexEntry

def ofItem (ordinal : Nat) (item : Item) : IndexEntry :=
  ⟨ordinal, item.id, item.kind, item.language, item.filePath⟩

def ofItems (items : List Item) : List IndexEntry :=
  items.zipIdx.map fun (item, ordinal) => ofItem ordinal item

def toJson (e : IndexEntry) : Json :=
  .object [("vectorOrdinal", .ofNat e.ordinal), ("id", .string e.id), ("type", .string e.kind.name),
    ("language", .string e.language.id), ("filePath", .string e.filePath)]

def ofJson? (value : Json) : Option IndexEntry :=
  match value.record? ["vectorOrdinal", "id", "type", "language", "filePath"] with
  | some [ordinal, id, kind, language, path] => do
    let ordinal ← Json.required? Json.nat? ordinal
    let id ← Json.required? Json.string? id
    let kind ← Json.required? (Json.named? ItemKind.ofName?) kind
    let language ← Json.required? (Json.named? Language.ofId?) language
    let path ← Json.required? Json.string? path
    some ⟨ordinal, id, kind, language, path⟩
  | _ => none

def tableText (entries : List IndexEntry) : String := Json.toPretty (.array (entries.map toJson))

def ofTableText (text : String) : Except Json.Refusal (List IndexEntry) :=
  Json.decodeText (Json.listOf? ofJson?) text

end IndexEntry

/-- Where the entries of an index lie: next to it, named for its stem. -/
def entriesPath (index : Path) : Path :=
  let stem := index.fileStem?.getD "index".toList
  index.withFileName (stem ++ ".entries.json".toList)

end CodeAtlas
