import CodeAtlas.Json.Value
import Mathlib.Data.List.Induction
import Mathlib.Data.String.Basic

/-!
Fields sorted by key. However often keys are repeated, each stands once among the sorted fields, with
the value it was given last.
-/
namespace CodeAtlas.Json

variable {α : Type}

def Sorted (fields : List (String × α)) : Prop :=
  fields.Pairwise fun a b => a.1 < b.1

theorem mem_insertField {key : String} {value : α} {fields : List (String × α)}
    (sorted : Sorted fields) {entry : String × α} :
    entry ∈ insertField key value fields ↔
      entry = (key, value) ∨ entry ∈ fields ∧ entry.1 ≠ key := by
  induction fields with
  | nil => simp [insertField]
  | cons first rest ih =>
    obtain ⟨k, v⟩ := first
    obtain ⟨least, others⟩ := List.pairwise_cons.mp sorted
    unfold insertField
    split
    · rename_i before
      have above : ∀ e ∈ (k, v) :: rest, e.1 ≠ key := by
        intro e member
        rcases List.mem_cons.mp member with rfl | later
        · exact before.ne'
        · exact (before.trans (least e later)).ne'
      rw [List.mem_cons]
      exact or_congr_right ⟨fun member => ⟨member, above entry member⟩, And.left⟩
    · split
      · rename_i same
        subst same
        have above : ∀ e ∈ rest, e.1 ≠ key := fun e later => (least e later).ne'
        simp only [List.mem_cons]
        constructor
        · rintro (rfl | later)
          · exact .inl rfl
          · exact .inr ⟨.inr later, above entry later⟩
        · rintro (rfl | ⟨rfl | later, apart⟩)
          · exact .inl rfl
          · exact absurd rfl apart
          · exact .inr later
      · rename_i other
        rw [List.mem_cons, ih others, List.mem_cons]
        constructor
        · rintro (rfl | rfl | ⟨later, apart⟩)
          · exact .inr ⟨.inl rfl, Ne.symm other⟩
          · exact .inl rfl
          · exact .inr ⟨.inr later, apart⟩
        · rintro (rfl | ⟨rfl | later, apart⟩)
          · exact .inr (.inl rfl)
          · exact .inl rfl
          · exact .inr (.inr ⟨later, apart⟩)

theorem Sorted.insertField {fields : List (String × α)} (sorted : Sorted fields) (key : String)
    (value : α) : Sorted (insertField key value fields) := by
  induction fields with
  | nil => exact List.pairwise_singleton _ _
  | cons first rest ih =>
    obtain ⟨k, v⟩ := first
    obtain ⟨least, others⟩ := List.pairwise_cons.mp sorted
    unfold Json.insertField
    split
    · rename_i before
      refine List.pairwise_cons.mpr ⟨fun e member => ?_, sorted⟩
      rcases List.mem_cons.mp member with rfl | later
      · exact before
      · exact before.trans (least e later)
    · split
      · rename_i same
        subst same
        exact List.pairwise_cons.mpr ⟨least, others⟩
      · rename_i after other
        have above : k < key := lt_of_le_of_ne (not_lt.mp after) (Ne.symm other)
        refine List.pairwise_cons.mpr ⟨fun e member => ?_, ih others⟩
        rcases (mem_insertField others).mp member with rfl | ⟨later, -⟩
        · exact above
        · exact least e later

theorem sortFields_concat (fields : List (String × α)) (entry : String × α) :
    sortFields (fields ++ [entry]) = insertField entry.1 entry.2 (sortFields fields) :=
  List.foldl_concat _ _ _ _

theorem sorted_sortFields (fields : List (String × α)) : Sorted (sortFields fields) := by
  induction fields using List.reverseRecOn with
  | nil => exact .nil
  | append_singleton fields entry ih =>
    rw [sortFields_concat]
    exact ih.insertField entry.1 entry.2

theorem mem_sortFields {fields : List (String × α)} {entry : String × α} :
    entry ∈ sortFields fields ↔ fields.reverse.find? (fun e => e.1 == entry.1) = some entry := by
  obtain ⟨key, value⟩ := entry
  induction fields using List.reverseRecOn with
  | nil => simp [sortFields]
  | append_singleton fields last ih =>
    obtain ⟨k, v⟩ := last
    rw [sortFields_concat, mem_insertField (sorted_sortFields fields), List.reverse_append,
      List.reverse_singleton, List.singleton_append, List.find?_cons]
    by_cases same : k = key
    · simp [same, eq_comm]
    · simp [beq_false_of_ne same, Ne.symm same, ih]

theorem insertField_greatest {key : String} (value : α) {fields : List (String × α)}
    (greatest : ∀ e ∈ fields, e.1 < key) :
    insertField key value fields = fields ++ [(key, value)] := by
  induction fields with
  | nil => rfl
  | cons first rest ih =>
    obtain ⟨k, v⟩ := first
    obtain ⟨before, others⟩ := List.forall_mem_cons.mp greatest
    have after : k < key := before
    rw [insertField, if_neg after.not_gt, if_neg after.ne', ih others, List.cons_append]

theorem sortFields_of_sorted {fields : List (String × α)} (sorted : Sorted fields) :
    sortFields fields = fields := by
  induction fields using List.reverseRecOn with
  | nil => rfl
  | append_singleton fields entry ih =>
    obtain ⟨front, -, below⟩ := List.pairwise_append.mp sorted
    rw [sortFields_concat, ih front]
    apply insertField_greatest
    intro e member
    exact below e member entry (List.mem_singleton_self entry)

/-! Values that hold no object -/

theorem canonical_ofStrings (texts : List String) :
    (ofStrings texts).canonical = ofStrings texts := by
  have each : canonicalList (texts.map .string) = texts.map .string := by
    induction texts with
    | nil => rfl
    | cons text texts ih =>
      rw [List.map_cons, canonicalList, ih]
      rfl
  rw [ofStrings, canonical, each]

theorem canonicalFields_of_canonical {fields : List (String × Json)}
    (each : ∀ e ∈ fields, e.2.canonical = e.2) : canonicalFields fields = fields := by
  induction fields with
  | nil => rfl
  | cons first rest ih =>
    obtain ⟨head, others⟩ := List.forall_mem_cons.mp each
    rw [canonicalFields, head, ih others]

end CodeAtlas.Json
