import CodeAtlas.Json.Record
import Mathlib.Data.List.Count

/-!
Records read from objects. What an object's other keys hold, and where its own keys stand, makes no
difference to a record as long as none of its own keys is repeated.
-/
namespace CodeAtlas.Json

theorem nat_ofNat (n : Nat) : nat? (ofNat n) = some n := by
  simp [nat?, ofNat]

theorem listOf_map {α : Type} {encode : α → Json} {element? : Json → Option α} {xs : List α}
    (each : ∀ x ∈ xs, element? (encode x) = some x) :
    listOf? element? (.array (xs.map encode)) = some xs := by
  rw [listOf?]
  induction xs with
  | nil => rfl
  | cons x xs ih =>
    obtain ⟨head, others⟩ := List.forall_mem_cons.mp each
    rw [List.map_cons, List.mapM_cons, head, ih others]
    rfl

def valuesOf (key : String) (fields : List (String × Json)) : List Json :=
  (fields.filter fun field => field.1 == key).map Prod.snd

theorem count_known (names : List String) (fields : List (String × Json)) {name : String}
    (listed : name ∈ names) :
    ((fields.filter fun field => names.contains field.1).map Prod.fst).count name =
      (valuesOf name fields).length := by
  rw [List.count, List.countP_map, List.countP_filter, valuesOf, List.length_map,
    ← List.countP_eq_length_filter]
  apply List.countP_congr
  intro field _
  simp only [Function.comp_apply, Bool.and_eq_true, beq_iff_eq, List.contains_iff_mem,
    and_iff_left_iff_imp]
  rintro rfl
  exact listed

theorem record_object {names : List String} {fields : List (String × Json)}
    (once : ∀ name ∈ names, (valuesOf name fields).length ≤ 1) :
    record? names (.object fields) = some (names.map fun name => (valuesOf name fields).head?) := by
  have distinct : ((fields.filter fun field => names.contains field.1).map Prod.fst).Nodup := by
    apply List.nodup_iff_count.mpr
    intro name
    by_cases listed : name ∈ names
    · rw [count_known names fields listed]
      exact once name listed
    · rw [List.count_eq_zero.mpr]
      · exact Nat.zero_le 1
      · intro known
        obtain ⟨field, member, rfl⟩ := List.mem_map.mp known
        exact listed (List.contains_iff_mem.mp (List.mem_filter.mp member).2)
  rw [record?, if_pos distinct]
  apply congrArg some
  apply List.map_congr_left
  intro name listed
  have same : (fun field : String × Json => decide (names.contains field.1 = true ∧
      (field.1 == name) = true)) = fun field => field.1 == name := by
    funext field
    by_cases found : field.1 = name
    · simp [found, listed]
    · simp [found]
  rw [valuesOf, List.head?_map, List.head?_filter, List.find?_filter, same]

end CodeAtlas.Json
