import CodeAtlas.Item.Construct

/-!
Attributes of a declaration: setting one changes it and no other, and nothing of the place the
declaration takes.
-/
namespace CodeAtlas

namespace Metadata

theorem get_insertField_self (key : String) (value : Json) (m : Metadata) :
    get? (Json.insertField key value m) key = some value := by
  induction m with
  | nil => simp [Json.insertField, get?]
  | cons entry rest ih =>
    obtain ⟨k, v⟩ := entry
    unfold Json.insertField
    split
    · simp [get?]
    · split
      · simp [get?]
      · rename_i apart
        have other : ¬ k = key := fun same => apart same.symm
        unfold get? at ih ⊢
        rw [List.find?_cons_of_neg (by simpa using other), ih]

theorem get_insertField_of_ne {key other : String} (apart : key ≠ other) (value : Json)
    (m : Metadata) : get? (Json.insertField key value m) other = m.get? other := by
  induction m with
  | nil => simp [Json.insertField, get?, apart]
  | cons entry rest ih =>
    obtain ⟨k, v⟩ := entry
    unfold Json.insertField
    split
    · simp [get?, apart]
    · split
      · rename_i same
        subst same
        simp [get?, apart]
      · unfold get? at ih ⊢
        rw [List.find?_cons, List.find?_cons]
        split
        · rfl
        · exact ih

theorem insertField_insertField (key : String) (value earlier : Json) (m : Metadata) :
    Json.insertField key value (Json.insertField key earlier m) = Json.insertField key value m := by
  induction m with
  | nil => simp [Json.insertField]
  | cons entry rest ih =>
    obtain ⟨k, v⟩ := entry
    by_cases before : key < k
    · simp [Json.insertField, before]
    · by_cases same : key = k
      · simp [Json.insertField, same]
      · simp [Json.insertField, before, same, ih]

theorem insertField_comm {key other : String} (apart : key ≠ other) (value value' : Json)
    (m : Metadata) :
    Json.insertField key value (Json.insertField other value' m) =
      Json.insertField other value' (Json.insertField key value m) := by
  induction m with
  | nil => grind [Json.insertField]
  | cons entry rest ih =>
    obtain ⟨k, v⟩ := entry
    grind [Json.insertField]

end Metadata

structure Extent where
  startLine : Nat
  endLine : Nat
  code : String
  deriving DecidableEq, Repr

namespace Construct

variable (c : Construct) (key : String)

def extent : Extent := ⟨c.startLine, c.endLine, c.code⟩

@[simp]
theorem extent_set (value : Json) : (c.set key value).extent = c.extent := rfl

@[simp]
theorem extent_setFlag (value : Bool) : (c.setFlag key value).extent = c.extent := rfl

@[simp]
theorem extent_setOption (value : Option String) : (c.setOption key value).extent = c.extent := by
  cases value <;> rfl

@[simp]
theorem extent_setList (values : List String) : (c.setList key values).extent = c.extent := by
  unfold setList
  split <;> rfl

def heading : ItemKind × String := (c.kind, c.name)

@[simp]
theorem heading_set (value : Json) : (c.set key value).heading = c.heading := rfl

@[simp]
theorem heading_setFlag (value : Bool) : (c.setFlag key value).heading = c.heading := rfl

@[simp]
theorem heading_setOption (value : Option String) :
    (c.setOption key value).heading = c.heading := by
  cases value <;> rfl

@[simp]
theorem heading_setList (values : List String) : (c.setList key values).heading = c.heading := by
  unfold setList
  split <;> rfl

def attribute? : Option Json := c.metadata.get? key

@[simp]
theorem attribute_set_self (value : Json) : (c.set key value).attribute? key = some value :=
  Metadata.get_insertField_self key value c.metadata

theorem attribute_setOption_self (value : Option String) :
    (c.setOption key value).attribute? key = (value.map Json.string).or (c.attribute? key) := by
  cases value with
  | none => rfl
  | some text => exact c.attribute_set_self key (.string text)

section Others

variable {key} {other : String} (apart : key ≠ other)

include apart

@[simp]
theorem attribute_set (value : Json) : (c.set key value).attribute? other = c.attribute? other :=
  Metadata.get_insertField_of_ne apart value c.metadata

@[simp]
theorem attribute_setFlag (value : Bool) :
    (c.setFlag key value).attribute? other = c.attribute? other :=
  c.attribute_set apart (.bool value)

@[simp]
theorem attribute_setOption (value : Option String) :
    (c.setOption key value).attribute? other = c.attribute? other := by
  cases value with
  | none => rfl
  | some text => exact c.attribute_set apart (.string text)

@[simp]
theorem attribute_setList (values : List String) :
    (c.setList key values).attribute? other = c.attribute? other := by
  unfold setList
  split
  · rfl
  · exact c.attribute_set apart (.ofStrings values)

end Others
end Construct

namespace SourceFile

variable (file : SourceFile) (c : Construct)

theorem attributes_startLine :
    (file.attributes c).get? "startLine" = some (.ofNat c.startLine) := by
  simp only [attributes, Construct.set]
  rw [Metadata.get_insertField_of_ne (by decide), Metadata.get_insertField_of_ne (by decide),
    Metadata.get_insertField_of_ne (by decide), Metadata.get_insertField_self]

theorem attributes_endLine :
    (file.attributes c).get? "endLine" = some (.ofNat c.endLine) := by
  simp only [attributes, Construct.set]
  rw [Metadata.get_insertField_of_ne (by decide), Metadata.get_insertField_of_ne (by decide),
    Metadata.get_insertField_self]

theorem attributes_sourceLength :
    (file.attributes c).get? "sourceLength" = some (.ofNat c.code.utf8ByteSize) := by
  simp only [attributes, Construct.set]
  rw [Metadata.get_insertField_of_ne (by decide), Metadata.get_insertField_self]

theorem item_startLine : (file.item c).startLine = c.startLine := by
  unfold Item.startLine Metadata.line
  rw [item, attributes_startLine]
  rfl

theorem item_endLine : (file.item c).endLine = c.endLine := by
  unfold Item.endLine Metadata.line
  rw [item, attributes_endLine]
  rfl

theorem item_attribute {key : String}
    (own : key ∉ ["startLine", "endLine", "sourceLength", "extractedAt"]) :
    (file.item c).metadata.get? key = c.attribute? key := by
  simp only [List.mem_cons, List.not_mem_nil, or_false, not_or] at own
  simp only [item, attributes, Construct.set]
  rw [Metadata.get_insertField_of_ne (Ne.symm own.2.2.2),
    Metadata.get_insertField_of_ne (Ne.symm own.2.2.1),
    Metadata.get_insertField_of_ne (Ne.symm own.2.1),
    Metadata.get_insertField_of_ne (Ne.symm own.1), Construct.attribute?]

end SourceFile
end CodeAtlas
