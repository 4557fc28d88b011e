import CodeAtlas.Item.Construct
import CodeAtlas.Item.Json
import CodeAtlas.Proofs.Json.Fields
import CodeAtlas.Proofs.Json.Legible
import CodeAtlas.Proofs.Json.Record

/-!
Items read back. Whatever texts an item holds and whichever of its layers it has, what is written for
it without a vector is read as the same item.
-/
namespace CodeAtlas

open Json (Spacing Rereads)

theorem ItemKind.ofName_name (kind : ItemKind) : ItemKind.ofName? kind.name = some kind := by
  cases kind <;> decide

theorem DependencyKind.ofName_name (kind : DependencyKind) :
    DependencyKind.ofName? kind.name = some kind := by
  cases kind <;> decide

theorem Language.ofId_id (language : Language) : Language.ofId? language.id = some language := by
  cases language <;> decide

/-! Layers that may be missing -/

namespace Json

variable {α : Type} {encode : α → Json}

theorem rereads_ofOption {s : Spacing} {levels : Nat}
    (each : ∀ x, Rereads s levels (encode x) (encode x)) (option : Option α) :
    Rereads s levels (ofOption encode option) (ofOption encode option) := by
  cases option with
  | none => exact rereads_null
  | some x => exact each x

theorem optional_ofOption {value? : Json → Option α} (present : ∀ x, encode x ≠ .null)
    (each : ∀ x, value? (encode x) = some x) (option : Option α) :
    optional? value? (ofOption encode option) = some option := by
  cases option with
  | none => rfl
  | some x => rw [ofOption, optional?.eq_2 _ _ (present x), each, Option.map_some]

theorem listOf_ofStrings (texts : List String) : listOf? string? (.ofStrings texts) = some texts :=
  listOf_map fun _ _ => rfl

end Json

/-! Attributes -/

namespace Metadata

inductive Shape : Json → Prop where
  | text (s : String) : Shape (.string s)
  | flag (b : Bool) : Shape (.bool b)
  | word (n : Nat) (fits : n < 2 ^ 64) : Shape (.ofNat n)
  | texts (xs : List String) : Shape (.ofStrings xs)

structure WellFormed (m : Metadata) : Prop where
  sorted : Json.Sorted m
  shaped : ∀ entry ∈ m, Shape entry.2

theorem Shape.rereads {s : Spacing} (blank : s.Blank) {levels : Nat} {value : Json}
    (shape : Shape value) : Rereads s (levels + 1) value value := by
  cases shape with
  | text s => exact Json.rereads_string s
  | flag b => exact Json.rereads_bool b
  | word n fits => exact Json.rereads_ofNat (Nat.le_of_lt_succ fits)
  | texts xs => exact Json.rereads_ofStrings blank xs

theorem Shape.canonical {value : Json} (shape : Shape value) : value.canonical = value := by
  cases shape with
  | text | flag | word => rfl
  | texts xs => exact Json.canonical_ofStrings xs

namespace WellFormed

variable {m : Metadata}

theorem rereads {s : Spacing} (blank : s.Blank) (wf : m.WellFormed) {levels : Nat} :
    Rereads s (levels + 2) (.object m) (.object m) := by
  apply Json.rereads_object blank
  rw [List.forall₂_same]
  intro entry member
  exact ⟨rfl, (wf.shaped entry member).rereads blank⟩

theorem ofJson (wf : m.WellFormed) : Metadata.ofJson? (.object m) = some m := by
  have same := Json.canonicalFields_of_canonical fun entry member =>
    (wf.shaped entry member).canonical
  rw [Metadata.ofJson?, same, Json.sortFields_of_sorted wf.sorted]

theorem nil : WellFormed [] := ⟨.nil, List.forall_mem_nil _⟩

theorem insertField (wf : m.WellFormed) (key : String) {value : Json} (shape : Shape value) :
    WellFormed (Json.insertField key value m) := by
  refine ⟨wf.sorted.insertField key value, ?_⟩
  intro entry member
  rcases (Json.mem_insertField wf.sorted).mp member with rfl | ⟨earlier, -⟩
  · exact shape
  · exact wf.shaped entry earlier

end WellFormed
end Metadata

/-! Every way a declaration is given an attribute leaves its attributes well-formed, and so do the
attributes of its item. -/

namespace Construct

variable {c : Construct} (wf : c.metadata.WellFormed) (key : String)

include wf

theorem wellFormed_setFlag (value : Bool) : (c.setFlag key value).metadata.WellFormed :=
  wf.insertField key (.flag value)

theorem wellFormed_setOption (value : Option String) :
    (c.setOption key value).metadata.WellFormed := by
  cases value with
  | none => exact wf
  | some text => exact wf.insertField key (.text text)

theorem wellFormed_setList (values : List String) :
    (c.setList key values).metadata.WellFormed := by
  unfold setList
  split
  · exact wf
  · exact wf.insertField key (.texts values)

end Construct

theorem SourceFile.wellFormed_item (file : SourceFile) {c : Construct}
    (wf : c.metadata.WellFormed) (starts : c.startLine < 2 ^ 64) (ends : c.endLine < 2 ^ 64)
    (sized : c.code.utf8ByteSize < 2 ^ 64) : (file.item c).metadata.WellFormed :=
  (((wf.insertField _ (.word _ starts)).insertField _ (.word _ ends)).insertField _
    (.word _ sized)).insertField _ (.text _)

namespace Dependency

theorem rereads_toJson {s : Spacing} (blank : s.Blank) {levels : Nat} (d : Dependency) :
    Rereads s (levels + 1) d.toJson d.toJson := by
  obtain ⟨name, kind, target⟩ := d
  apply Json.rereads_object blank
  refine .cons ⟨rfl, Json.rereads_string name⟩ (.cons ⟨rfl, Json.rereads_string kind.name⟩ ?_)
  cases target with
  | none => exact .nil
  | some target => exact .cons ⟨rfl, Json.rereads_string target⟩ .nil

theorem ofJson_toJson (d : Dependency) : ofJson? d.toJson = some d := by
  obtain ⟨name, kind, target⟩ := d
  cases target <;>
    simp [ofJson?, toJson, Json.record?, Json.required?, Json.defaulted?, Json.optional?,
      Json.string?, Json.named?, DependencyKind.ofName_name]

end Dependency

namespace Item

variable {item : Item} (bare : item.vector = none) (wf : item.metadata.WellFormed)

include bare wf

theorem rereads_toJson {s : Spacing} (blank : s.Blank) : Rereads s 3 item.toJson item.toJson := by
  -- A list among the attributes is the deepest: inside it, the attributes and the item.
  apply Json.rereads_object blank
  refine .cons ⟨rfl, Json.rereads_string item.id⟩ ?_
  refine .cons ⟨rfl, Json.rereads_string item.kind.name⟩ ?_
  refine .cons ⟨rfl, Json.rereads_string item.name⟩ ?_
  refine .cons ⟨rfl, Json.rereads_string item.language.id⟩ ?_
  refine .cons ⟨rfl, Json.rereads_string item.filePath⟩ ?_
  refine .cons ⟨rfl, Json.rereads_string item.code⟩ ?_
  refine .cons ⟨rfl, Json.rereads_map blank fun d _ => d.rereads_toJson blank⟩ ?_
  refine .cons ⟨rfl, Json.rereads_ofOption Json.rereads_string item.description⟩ ?_
  refine .cons ⟨rfl, Json.rereads_ofOption Json.rereads_string item.summary⟩ ?_
  refine .cons ⟨rfl, Json.rereads_ofOption (Json.rereads_ofStrings blank) item.tags⟩ ?_
  refine .cons ⟨rfl, ?_⟩ (.cons ⟨rfl, wf.rereads blank⟩ .nil)
  rw [bare]
  exact Json.rereads_null

theorem ofJson_toJson : ofJson? item.toJson = some item := by
  have known : item.toJson.record? fieldNames = some [some (.string item.id),
      some (.string item.kind.name), some (.string item.name), some (.string item.language.id),
      some (.string item.filePath), some (.string item.code),
      some (.array (item.dependencies.map Dependency.toJson)),
      some (Json.ofOption .string item.description), some (Json.ofOption .string item.summary),
      some (Json.ofOption Json.ofStrings item.tags),
      some (Json.ofOption Embedding.toJson item.vector), some (.object item.metadata)] := by
    simp [toJson, Json.record?, fieldNames]
  have dependencies := Json.listOf_map fun (d : Dependency) (_ : d ∈ item.dependencies) =>
    d.ofJson_toJson
  -- Each field that may be missing is decoded as it was encoded; the vector is null.
  have text : ∀ option, Json.optional? Json.string? (Json.ofOption .string option) = some option :=
    Json.optional_ofOption (fun _ h => by cases h) fun _ => rfl
  have tags := Json.optional_ofOption (fun _ h => by cases h) Json.listOf_ofStrings item.tags
  have vector : Json.optional? Embedding.ofJson? (Json.ofOption Embedding.toJson item.vector) =
      some none := by
    rw [bare]
    rfl
  rw [ofJson?, known]
  simp only [Json.required?, Json.defaulted?, Json.named?, Json.string?, Option.bind_some,
    ItemKind.ofName_name, Language.ofId_id, dependencies, text, tags, vector, wf.ofJson,
    Option.bind_eq_bind, ← bare]

theorem ofText_toCompact : ofText? item.toJson.toCompact = some item := by
  have read := Json.ofText_toCompact (rereads_toJson bare wf Json.compactSpacing_blank) (by decide)
  rw [ofText?, read]
  exact ofJson_toJson bare wf

theorem ofText_toPretty : ofText? item.toJson.toPretty = some item := by
  have read := Json.ofText_toPretty (rereads_toJson bare wf Json.prettySpacing_blank) (by decide)
  rw [ofText?, read]
  exact ofJson_toJson bare wf

omit bare wf

theorem decodeText_items {items : List Item}
    (each : ∀ item ∈ items, item.vector = none ∧ item.metadata.WellFormed) :
    Json.decodeText (Json.listOf? ofJson?) (Json.toPretty (.array (items.map toJson))) =
      .ok items := by
  have rereads := Json.rereads_map Json.prettySpacing_blank fun item listed =>
    rereads_toJson (each item listed).1 (each item listed).2 Json.prettySpacing_blank
  have decoded := Json.listOf_map fun item listed =>
    ofJson_toJson (each item listed).1 (each item listed).2
  simp only [Json.decodeText, Json.ofText_toPretty rereads (by decide), decoded]

/-- Both written forms of an item without a vector are read as the same item, with the same first and
last line, whatever its texts hold and whichever of its layers it has. -/
theorem written_item_reads_back (item : Item) (bare : item.vector = none)
    (wf : item.metadata.WellFormed) :
    ∀ text ∈ [item.toJson.toCompact, item.toJson.toPretty], ∃ reread, ofText? text = some reread ∧
      reread = item ∧ reread.startLine = item.startLine ∧ reread.endLine = item.endLine := by
  have same : ∀ text ∈ [item.toJson.toCompact, item.toJson.toPretty],
      ofText? text = some item := by
    simp only [List.forall_mem_cons, List.not_mem_nil, false_imp_iff, implies_true, and_true]
    exact ⟨ofText_toCompact bare wf, ofText_toPretty bare wf⟩
  intro text written
  exact ⟨item, same text written, rfl, rfl, rfl⟩

theorem partly_enriched_item_reads_back :
    let declared : Construct := ⟨.method, "größe", 3, 4, "def größe(self):\n\treturn \"\x01\\\"", []⟩
    let c := ((declared.setFlag "isAsync" false).setOption "className" (some "Maß")).setList
      "decorators" ["cache"]
    let item : Item :=
      { SourceFile.item ⟨"a.py", "a", .python, ⟨0, 0⟩⟩ c with
        dependencies := [⟨"len", .call, none⟩, ⟨"Base", .inheritance, some "a.Base_L1"⟩]
        summary := some "Returns \"ü\"." }
    item.vector = none ∧ item.metadata.WellFormed ∧ item.description = none ∧
      ∀ text ∈ [item.toJson.toCompact, item.toJson.toPretty], ofText? text = some item ∧
        item.startLine = 3 ∧ item.endLine = 4 := by
  intro declared c item
  have bare : item.vector = none := rfl
  have named : c.metadata.WellFormed := Construct.wellFormed_setList
    (Construct.wellFormed_setOption (Construct.wellFormed_setFlag .nil _ _) _ _) _ _
  have wf : item.metadata.WellFormed :=
    SourceFile.wellFormed_item _ named (by decide) (by decide) (by decide)
  refine ⟨bare, wf, rfl, ?_⟩
  intro text written
  obtain ⟨reread, read, rfl, -, -⟩ := written_item_reads_back item bare wf text written
  exact ⟨read, by decide, by decide⟩

end Item
end CodeAtlas
