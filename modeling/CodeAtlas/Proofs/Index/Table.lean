import CodeAtlas.Index.Builder
import CodeAtlas.Proofs.Item.Reading

/-!
The table next to an index: what is written for entries is read back as the same entries.
-/
namespace CodeAtlas

theorem fromUTF8_toUTF8 (s : String) : String.fromUTF8? s.toUTF8 = some s := by
  rw [String.fromUTF8?, String.toUTF8_eq_toByteArray, dif_pos s.isValidUTF8]
  rfl

namespace IndexEntry

open Json

theorem rereads_toJson {s : Spacing} (blank : s.Blank) {e : IndexEntry}
    (fits : e.ordinal ≤ largestWord) : Rereads s 1 e.toJson e.toJson := by
  refine rereads_object blank ?_
  refine .cons ⟨rfl, rereads_ofNat fits⟩ ?_
  refine .cons ⟨rfl, rereads_string e.id⟩ ?_
  refine .cons ⟨rfl, rereads_string e.kind.name⟩ ?_
  refine .cons ⟨rfl, rereads_string e.language.id⟩ ?_
  exact .cons ⟨rfl, rereads_string e.filePath⟩ .nil

theorem ofJson_toJson (e : IndexEntry) : ofJson? e.toJson = some e := by
  simp [ofJson?, toJson, record?, required?, nat_ofNat, string?, named?, ItemKind.ofName_name,
    Language.ofId_id]

theorem ofTableText_tableText {entries : List IndexEntry}
    (fits : ∀ e ∈ entries, e.ordinal ≤ largestWord) :
    ofTableText (tableText entries) = .ok entries := by
  have rereads := rereads_map prettySpacing_blank fun e listed =>
    rereads_toJson prettySpacing_blank (fits e listed)
  have found := ofText_toPretty rereads (by decide)
  rw [ofTableText, decodeText, tableText, found]
  simp only [listOf_map fun e _ => ofJson_toJson e]

theorem ofItems_get (items : List Item) (i : Nat) :
    (ofItems items)[i]? = items[i]?.map (ofItem i) := by
  simp only [ofItems, List.getElem?_map, List.getElem?_zipIdx, Option.map_map, Nat.zero_add]
  rfl

theorem ordinal_lt {items : List Item} {e : IndexEntry} (member : e ∈ ofItems items) :
    e.ordinal < items.length := by
  obtain ⟨i, found⟩ := List.mem_iff_getElem?.mp member
  rw [ofItems_get] at found
  obtain ⟨item, stands, rfl⟩ := Option.map_eq_some_iff.mp found
  exact (List.getElem?_eq_some_iff.mp stands).1

end IndexEntry

theorem loadEntries_written {files : FileTree} {path : Path} {entries : List IndexEntry}
    (fits : ∀ e ∈ entries, e.ordinal ≤ Json.largestWord)
    (content : files.read path = .ok (IndexEntry.tableText entries).toUTF8) :
    loadEntries files path = .ok entries := by
  rw [loadEntries, readPayload, content]
  simp only [fromUTF8_toUTF8, IndexEntry.ofTableText_tableText fits]

end CodeAtlas
