import CodeAtlas.Extraction
import CodeAtlas.Proofs.Item.Attributes
import CodeAtlas.Proofs.Item.Ids
import CodeAtlas.Proofs.Outline.Window
import CodeAtlas.Proofs.Text.Lines
import Mathlib.Data.List.TakeWhile

/-!
Python texts joined one below the other. Where a text ends with its last line and the next one begins
at the margin, with no decorator between them, each is read as if it stood alone.
-/
namespace CodeAtlas
namespace Outline

theorem scan_append {σ : Type} (step : σ → Nat → Line → Option Construct × σ) (state : σ) (i : Nat)
    (front back : List Line) :
    ∃ later, scan step state i (front ++ back) =
      scan step state i front ++ scan step later (i + front.length) back := by
  induction front generalizing state i with
  | nil => exact ⟨state, rfl⟩
  | cons line front ih =>
    obtain ⟨later, others⟩ := ih (step state i line).2 (i + 1)
    refine ⟨later, ?_⟩
    rw [List.cons_append, scan, scan, List.length_cons, Nat.add_comm front.length, ← Nat.add_assoc]
    split
    · rename_i next stepped
      rw [stepped] at others
      exact others
    · rename_i found next stepped
      rw [stepped] at others
      rw [others, List.cons_append]

namespace Python

theorem enclosing_margin (scopes : List Scope) : enclosing 0 scopes = [] := by
  rw [enclosing, List.dropWhile_eq_nil_iff]
  exact fun s _ => decide_eq_true (Nat.zero_le s.indent)

/-- Whatever scopes are open above, none is open any more at a line at the margin. -/
theorem scan_margin (lines : List Line) (scopes : List Scope) (i : Nat) {rest : List Line}
    (margin : AtMargin rest) : scan (step lines) scopes i rest = scan (step lines) [] i rest := by
  induction rest generalizing i with
  | nil => rfl
  | cons line rest ih =>
    rw [scan, scan]
    cases blank : Text.allBlank line with
    | true =>
      have skipped : ∀ state, step lines state i line = (none, state) := by
        intro state
        simp [step, blank]
      rw [skipped, skipped]
      exact ih (i + 1) (margin.of_blank blank)
    | false =>
      have same : step lines scopes i line = step lines [] i line := by
        obtain ⟨unindented, plain⟩ := margin.head blank
        simp [step, blank, plain, unindented, enclosing_margin]
      rw [same]

variable {above part below : List Line}

theorem step_window (undecorated : EndsUndecorated above) (margin : AtMargin below)
    {i : Nat} (inside : i < part.length) (scopes : List Scope) (line : Line) :
    step (above ++ part ++ below) scopes (above.length + i) line =
      ((step part scopes i line).1.map (Construct.movedDown above.length),
        (step part scopes i line).2) := by
  unfold step
  split
  · rfl
  · dsimp only
    split
    · rfl
    · rw [declaration_window inside undecorated margin]
      rfl

theorem scan_window (undecorated : EndsUndecorated above) (margin : AtMargin below)
    (scopes : List Scope) (i : Nat) (rest : List Line) (inside : i + rest.length = part.length) :
    scan (step (above ++ part ++ below)) scopes (above.length + i) rest =
      (scan (step part) scopes i rest).map (Construct.movedDown above.length) := by
  induction rest generalizing scopes i with
  | nil => rfl
  | cons line rest ih =>
    rw [List.length_cons] at inside
    have later := ih (step part scopes i line).2 (i + 1) (by omega)
    rw [scan, scan, step_window undecorated margin (by omega)]
    cases found : step part scopes i line with
    | mk here next =>
      rw [found] at later
      cases here with
      | none => exact later
      | some c => exact congrArg (c.movedDown above.length :: ·) later

theorem outline_append {front back : Line} (closed : front = [] ∨ front.getLast? = some '\n')
    (undecorated : EndsUndecorated (Text.lines front)) (margin : AtMargin (Text.lines back)) :
    outline (front ++ back) =
      outline front ++ (outline back).map (Construct.movedDown (Text.lines front).length) := by
  have nothing_above : EndsUndecorated [] := fun _ last => nomatch last
  have nothing_below : AtMargin [] := fun _ found => nomatch found
  have upper : scan (step (Text.lines front ++ Text.lines back)) [] 0 (Text.lines front) =
      outline front :=
    calc scan (step (Text.lines front ++ Text.lines back)) [] 0 (Text.lines front)
      _ = (scan (step (Text.lines front)) [] 0 (Text.lines front)).map (Construct.movedDown 0) :=
        scan_window nothing_above margin [] 0 _ (Nat.zero_add _)
      _ = outline front := by
        rw [Construct.movedDown_zero, List.map_id, outline]
  have lower : scan (step (Text.lines front ++ Text.lines back)) [] (Text.lines front).length
      (Text.lines back) = (outline back).map (Construct.movedDown (Text.lines front).length) := by
    rw [← List.append_nil (Text.lines front ++ Text.lines back)]
    exact scan_window undecorated nothing_below [] 0 _ (Nat.zero_add _)
  obtain ⟨later, parted⟩ := scan_append (step (Text.lines front ++ Text.lines back)) [] 0
    (Text.lines front) (Text.lines back)
  rw [← upper, ← lower, outline, Text.lines_append closed, parted, scan_margin _ later _ margin,
    Nat.zero_add]

end Python
end Outline

namespace Item

def stamped (extractedAt : Timestamp) (item : Item) : Item :=
  { item with
    metadata := Json.insertField "extractedAt" (.string extractedAt.toText) item.metadata }

/-- The item as it is found some lines further down: its first and last line and the digits at the
end of its id are counted on. -/
def movedDown (lines : Nat) (item : Item) : Item :=
  let first := item.startLine + lines
  let last := item.endLine + lines
  { item with
    id := String.ofList (Text.dropEndWhile Char.isDigit item.id.toList) ++ toString first
    metadata := Json.insertField "endLine" (.ofNat last)
      (Json.insertField "startLine" (.ofNat first) item.metadata) }

end Item

namespace SourceFile

variable (file : SourceFile) (c : Construct)

theorem item_stamped (extractedAt : Timestamp) :
    (file.item c).stamped extractedAt = { file with extractedAt := extractedAt }.item c := by
  simp only [Item.stamped, item, attributes, Construct.set, Metadata.insertField_insertField]

theorem item_movedDown (lines : Nat) :
    file.item (c.movedDown lines) = (file.item c).movedDown lines := by
  have id : deriveId file.stem c.name (c.startLine + lines) =
      String.ofList (Text.dropEndWhile Char.isDigit
        (deriveId file.stem c.name c.startLine).toList) ++ toString (c.startLine + lines) := by
    rw [dropEndWhile_isDigit_deriveId, String.ofList_toList, deriveId]
  have metadata : file.attributes (c.movedDown lines) =
      Json.insertField "endLine" (.ofNat (c.endLine + lines))
        (Json.insertField "startLine" (.ofNat (c.startLine + lines)) (file.attributes c)) := by
    -- Each new value is carried inwards, past the attributes set later, to the one it replaces.
    simp only [attributes, Construct.set, Construct.movedDown]
    rw [Metadata.insertField_comm (by decide : "startLine" ≠ "extractedAt"),
      Metadata.insertField_comm (by decide : "startLine" ≠ "sourceLength"),
      Metadata.insertField_comm (by decide : "startLine" ≠ "endLine"),
      Metadata.insertField_insertField,
      Metadata.insertField_comm (by decide : "endLine" ≠ "extractedAt"),
      Metadata.insertField_comm (by decide : "endLine" ≠ "sourceLength"),
      Metadata.insertField_insertField]
  unfold Item.movedDown
  rw [item_startLine, item_endLine]
  dsimp only [item]
  rw [metadata, ← id]
  rfl

end SourceFile

/-- A text that ends with its last line, which is no decorator, and a text that is blank or begins at
the margin with something other than a comment: the items of both together are those of the first
and, further down by its lines, those of the second, whenever each was extracted. -/
theorem python_items_of_joined_texts (path : String) {front back : Line}
    (closed : front = [] ∨ front.getLast? = some '\n')
    (undecorated : Outline.EndsUndecorated (Text.lines front))
    (margin : Outline.AtMargin (Text.lines back)) (extractedAt frontAt backAt : Timestamp) :
    extractItems .python path (front ++ back) none extractedAt =
      (extractItems .python path front none frontAt ++
        (extractItems .python path back none backAt).map
          (Item.movedDown (Text.lines front).length)).map (Item.stamped extractedAt) := by
  let file := SourceFile.ofPath path ((Language.ofPath? (Path.ofString path)).getD .python)
  have outlined : ∀ source time, extractItems .python path source none time =
      (Outline.Python.outline source).map (file time).item := fun _ _ => rfl
  have again : ∀ earlier, Item.stamped extractedAt ∘ (file earlier).item = (file extractedAt).item :=
    fun earlier => funext fun c => SourceFile.item_stamped (file earlier) c extractedAt
  have below : Item.movedDown (Text.lines front).length ∘ (file backAt).item =
      (file backAt).item ∘ Construct.movedDown (Text.lines front).length :=
    funext fun c => (SourceFile.item_movedDown (file backAt) c _).symm
  rw [outlined, outlined, outlined, Outline.Python.outline_append closed undecorated margin]
  simp only [List.map_append, List.map_map, below, ← Function.comp_assoc, again]

theorem decorated_function_moves_below_class :
    let front := "class Box:\n    def area(self):\n        return self.side\n\n".toList
    let back := "\n@wraps\ndef grow(x):\n    return x\n".toList
    front.getLast? = some '\n' ∧
      Outline.EndsUndecorated (Text.lines front) ∧
      Outline.AtMargin (Text.lines back) ∧
      extractItems .python "src/box.py" (front ++ back) none ⟨0, 0⟩ =
        (extractItems .python "src/box.py" front none ⟨1, 0⟩ ++
          (extractItems .python "src/box.py" back none ⟨2, 0⟩).map (Item.movedDown 4)).map
            (Item.stamped ⟨0, 0⟩) ∧
      (extractItems .python "src/box.py" (front ++ back) none ⟨0, 0⟩).map
        (fun item => (item.id, item.startLine, item.endLine)) =
          [("box.Box_L1", 1, 3), ("box.area_L2", 2, 3), ("box.grow_L6", 6, 8)] := by
  intro front back
  have closed : front.getLast? = some '\n' := by decide +kernel
  have undecorated : Outline.EndsUndecorated (Text.lines front) := by
    have last : (Text.lines front).getLast? = some [] := by decide +kernel
    intro line same
    cases last.symm.trans same
    decide
  have margin : Outline.AtMargin (Text.lines back) := by
    have first : Outline.firstNonBlank? (Text.lines back) = some "@wraps".toList := by
      decide +kernel
    intro line same
    cases first.symm.trans same
    decide
  have length : (Text.lines front).length = 4 := by decide +kernel
  have joined := python_items_of_joined_texts "src/box.py" (.inr closed) undecorated margin
    ⟨0, 0⟩ ⟨1, 0⟩ ⟨2, 0⟩
  rw [length] at joined
  exact ⟨closed, undecorated, margin, joined, by decide +kernel⟩

end CodeAtlas
