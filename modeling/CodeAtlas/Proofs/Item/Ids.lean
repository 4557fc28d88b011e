import CodeAtlas.Item.Construct
import Mathlib.Data.List.Basic

/-!
Taking an id apart. The digits at the end of an id are those of its line and nothing else, and its
only dot stands behind the stem, since a sanitized text has none. So ids are equal exactly where
their lines and their sanitized stems and names are, also of names that look like the end of an id,
and ids of declarations that begin on different lines differ.
-/
namespace CodeAtlas

theorem toList_toString_nat (n : Nat) : (toString n).toList = Nat.toDigits 10 n := by
  simp

theorem takeWhile_isDigit_deriveId (stem name : String) (line : Nat) :
    (deriveId stem name line).toList.reverse.takeWhile Char.isDigit =
      (Nat.toDigits 10 line).reverse := by
  have digits : ∀ c ∈ (Nat.toDigits 10 line).reverse, c.isDigit = true := fun c member =>
    Nat.isDigit_of_mem_toDigits (by decide) (by decide) (List.mem_reverse.mp member)
  simp only [deriveId, String.toList_append, List.reverse_append, toList_toString_nat]
  rw [List.takeWhile_append_of_pos digits]
  simp

theorem dropEndWhile_isDigit_deriveId (stem name : String) (line : Nat) :
    Text.dropEndWhile Char.isDigit (deriveId stem name line).toList =
      (sanitize stem ++ "." ++ sanitize name ++ "_L").toList := by
  have digits : ∀ c ∈ (Nat.toDigits 10 line).reverse, c.isDigit = true := fun c member =>
    Nat.isDigit_of_mem_toDigits (by decide) (by decide) (List.mem_reverse.mp member)
  rw [deriveId, String.toList_append, toList_toString_nat, Text.dropEndWhile, List.reverse_append,
    List.dropWhile_append_of_pos digits]
  simp

theorem line_of_deriveId {stem name stem' name' : String} {line line' : Nat}
    (same : deriveId stem name line = deriveId stem' name' line') : line = line' := by
  have digits := takeWhile_isDigit_deriveId stem name line
  rw [same, takeWhile_isDigit_deriveId, List.reverse_inj] at digits
  rw [← Nat.ofDigitChars_ten_toDigits (n := line), ← digits, Nat.ofDigitChars_ten_toDigits]

theorem dot_not_mem_sanitize (s : String) : '.' ∉ (sanitize s).toList := by
  rw [sanitize, String.toList_ofList]
  intro member
  obtain ⟨c, -, same⟩ := List.mem_map.mp member
  split at same
  · rename_i kept
    rw [same] at kept
    exact absurd kept (by decide)
  · exact absurd same (by decide)

/-- Before the line of an id there is one dot, between the two sanitized parts. -/
theorem parts_of_deriveId {stem name stem' name' : String} {line line' : Nat}
    (same : deriveId stem name line = deriveId stem' name' line') :
    sanitize stem = sanitize stem' ∧ sanitize name = sanitize name' := by
  have dotted (stem name : String) : (sanitize stem ++ "." ++ sanitize name ++ "_L").toList =
      (sanitize stem).toList ++ '.' :: ((sanitize name).toList ++ ['_', 'L']) := by
    simp only [String.toList_append, List.append_assoc]
    rfl
  have front := dropEndWhile_isDigit_deriveId stem name line
  rw [same, dropEndWhile_isDigit_deriveId, dotted, dotted] at front
  have undotted : '.' ∉ (sanitize name').toList ++ ['_', 'L'] := by
    simp [dot_not_mem_sanitize]
  obtain ⟨stems, -, names⟩ :=
    (List.append_cons_inj_of_notMem (dot_not_mem_sanitize stem') undotted).mp front
  have names := List.append_cancel_right names
  exact ⟨String.toList_injective stems.symm, String.toList_injective names.symm⟩

/-- Ids are as distinct as their sanitized parts and their lines. -/
theorem deriveId_eq_iff (stem name stem' name' : String) (line line' : Nat) :
    deriveId stem name line = deriveId stem' name' line' ↔
      sanitize stem = sanitize stem' ∧ sanitize name = sanitize name' ∧ line = line' := by
  constructor
  · intro same
    obtain ⟨stems, names⟩ := parts_of_deriveId same
    exact ⟨stems, names, line_of_deriveId same⟩
  · rintro ⟨stems, names, rfl⟩
    rw [deriveId, deriveId, stems, names]

theorem SourceFile.startLine_of_id {file : SourceFile} {c d : Construct}
    (same : (file.item c).id = (file.item d).id) : c.startLine = d.startLine := by
  have ids : deriveId file.stem c.name c.startLine = deriveId file.stem d.name d.startLine := same
  exact line_of_deriveId ids

end CodeAtlas
