import CodeAtlas.Extraction

/-!
The layers of an item. Items that are extracted have no layer but their text.
-/
namespace CodeAtlas

namespace Item

def Undescribed (item : Item) : Prop :=
  item.description = none ∧ item.summary = none ∧ item.tags = none

def Described (item : Item) : Prop :=
  item.description.isSome ∧ item.summary.isSome ∧ item.tags.isSome

def HasVector (dimension : Nat) (item : Item) : Prop :=
  ∃ vector, item.vector = some vector ∧ vector.length = dimension

end Item

theorem extractItems_bare (language : Language) (path : String) (source : Line)
    (tree : Option Node) (extractedAt : Timestamp) :
    ∀ item ∈ extractItems language path source tree extractedAt,
      item.dependencies = [] ∧ item.Undescribed ∧ item.vector = none := by
  intro item member
  obtain ⟨construct, -, rfl⟩ := List.mem_map.mp member
  exact ⟨rfl, ⟨rfl, rfl, rfl⟩, rfl⟩

end CodeAtlas
