import CodeAtlas.Outline.Python
import CodeAtlas.Proofs.Text.Split

/-!
Bounds of the scans that find where a declaration begins and ends. Whatever the text, with braces
left open or closed too often, a header on the last line or nothing but blank lines below it, every
scan stays among the lines of the file.
-/
namespace CodeAtlas.Outline

variable {lines : List Line} {i : Nat}

theorem blockTail_lt (depth : Int32) (opened : Bool) (line : Line) (rest : List Line) :
    blockTail depth opened (line :: rest) < (line :: rest).length := by
  induction rest generalizing depth opened line with
  | nil => exact Nat.one_pos
  | cons next rest ih =>
    have further := ih (depth + braceNet line) (opened || opensBrace line) next
    simp only [blockTail, List.length_cons] at further ⊢
    split
    · split <;> omega
    · split
      · omega
      · split <;> omega

theorem le_braceBlockEnd (lines : List Line) (i : Nat) : i ≤ braceBlockEnd lines i :=
  Nat.le_add_right i _

theorem braceBlockEnd_lt (inside : i < lines.length) : braceBlockEnd lines i < lines.length := by
  unfold braceBlockEnd
  cases below : lines.drop i with
  | nil =>
    have none_below := List.drop_eq_nil_iff.mp below
    omega
  | cons line rest =>
    have tail := blockTail_lt 0 false line rest
    have length := congrArg List.length below
    rw [List.length_drop] at length
    omega

theorem depthProfile_length (lines : List Line) : (depthProfile lines).length = lines.length := by
  have from_any : ∀ depth, (depthsFrom depth lines).length = lines.length := by
    induction lines with
    | nil => exact fun _ => rfl
    | cons line rest ih => exact fun depth => congrArg (· + 1) (ih (depth + braceNet line))
  exact from_any 0

theorem indentTail_le (header : Nat) (lines : List Line) :
    indentTail header lines ≤ lines.length := by
  induction lines with
  | nil => exact Nat.le_refl 0
  | cons line rest ih =>
    rw [indentTail, List.length_cons]
    split
    · split <;> omega
    · split <;> omega

theorem le_indentBlockEnd (lines : List Line) (i : Nat) : i ≤ indentBlockEnd lines i :=
  Nat.le_add_right i _

theorem indentBlockEnd_lt (inside : i < lines.length) : indentBlockEnd lines i < lines.length := by
  have tail := indentTail_le (indentOf (lines[i]?.getD [])) (lines.drop (i + 1))
  rw [List.length_drop] at tail
  unfold indentBlockEnd
  omega

theorem runAbove_le (lines : List Line) (i : Nat) (p : Line → Bool) : runAbove lines i p ≤ i :=
  Nat.sub_le i _

theorem span_length {first last : Nat} (ends : last < lines.length) :
    (span lines first last).length = last + 1 - first := by
  rw [span, List.length_drop, List.length_take]
  omega

namespace Python

theorem le_headerEnd (lines : List Line) (i blockEnd : Nat) : i ≤ headerEnd lines i blockEnd := by
  unfold headerEnd
  dsimp only
  split <;> omega

theorem headerEnd_le {blockEnd : Nat} (begins : i ≤ blockEnd) (ends : blockEnd < lines.length) :
    headerEnd lines i blockEnd ≤ blockEnd := by
  unfold headerEnd
  dsimp only
  split
  · rename_i n found
    obtain ⟨reached, -⟩ := List.findIdx?_eq_some_iff_getElem.mp found
    rw [span_length ends] at reached
    omega
  · exact begins

theorem closingLine_le {quote opening : Line} {later : List Line} {n : Nat}
    (found : closingLine? quote opening later = some n) : n ≤ later.length := by
  obtain ⟨reached, -⟩ := List.findIdx?_eq_some_iff_getElem.mp found
  rw [List.length_cons] at reached
  omega

end Python
end CodeAtlas.Outline
