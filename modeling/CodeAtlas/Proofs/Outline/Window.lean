import CodeAtlas.Proofs.Outline.Block

/-!
Reading part of a file. Seen from a Python declaration, a file may as well begin below a line that is
no decorator, and end above a line at the margin: no scan gets past either, and what is found differs
in its line numbers only.
-/
namespace CodeAtlas

def Construct.movedDown (lines : Nat) (c : Construct) : Construct :=
  { c with startLine := c.startLine + lines, endLine := c.endLine + lines }

namespace Construct

variable (c : Construct) (key : String) (n : Nat)

@[simp]
theorem movedDown_zero : movedDown 0 = id := rfl

@[simp]
theorem movedDown_setFlag (value : Bool) :
    (c.setFlag key value).movedDown n = (c.movedDown n).setFlag key value := rfl

@[simp]
theorem movedDown_setOption (value : Option String) :
    (c.setOption key value).movedDown n = (c.movedDown n).setOption key value := by
  cases value <;> rfl

@[simp]
theorem movedDown_setList (values : List String) :
    (c.setList key values).movedDown n = (c.movedDown n).setList key values := by
  unfold setList
  split <;> rfl

end Construct

namespace Outline

def AtMargin (lines : List Line) : Prop :=
  ∀ line, firstNonBlank? lines = some line →
    indentOf line = 0 ∧ (Text.trimStart line).head? ≠ some '#'

def EndsUndecorated (lines : List Line) : Prop :=
  ∀ line, lines.getLast? = some line → (Text.trim line).head? ≠ some '@'

theorem AtMargin.of_blank {line : Line} {rest : List Line} (blank : Text.allBlank line = true)
    (margin : AtMargin (line :: rest)) : AtMargin rest := by
  intro first found
  apply margin first
  rw [firstNonBlank?, List.find?_cons_of_neg (by simp [blank])]
  exact found

theorem AtMargin.head {line : Line} {rest : List Line} (solid : Text.allBlank line = false)
    (margin : AtMargin (line :: rest)) :
    indentOf line = 0 ∧ (Text.trimStart line).head? ≠ some '#' :=
  margin line (List.find?_cons_of_pos (by simp [solid]))

variable {above part below : List Line} {i j : Nat}

theorem take_drop_window (inside : j ≤ part.length) :
    ((above ++ part ++ below).take (above.length + j)).drop (above.length + i) =
      (part.take j).drop i := by
  rw [List.append_assoc, List.take_length_add_append, List.drop_length_add_append,
    List.take_append_of_le_length inside]

theorem span_window (inside : j < part.length) :
    span (above ++ part ++ below) (above.length + i) (above.length + j) = span part i j := by
  unfold span
  rw [Nat.add_assoc]
  exact take_drop_window inside

theorem construct_window (inside : j < part.length) (kind : ItemKind) (name : Line) :
    construct kind name (above ++ part ++ below) (above.length + i) (above.length + j) =
      (construct kind name part i j).movedDown above.length := by
  unfold construct spanCode Construct.movedDown
  rw [span_window inside, Nat.add_assoc, Nat.add_assoc, Nat.add_comm _ (i + 1),
    Nat.add_comm _ (j + 1)]

theorem runAbove_window {p : Line → Bool} (inside : i ≤ part.length)
    (stops : ∀ line, above.getLast? = some line → p (Text.trim line) = false) :
    runAbove (above ++ part ++ below) (above.length + i) p = above.length + runAbove part i p := by
  -- The run comes to an end at the last line above, if not before.
  have none_above : above.reverse.takeWhile (fun l => p (Text.trim l)) = [] := by
    cases reversed : above.reverse with
    | nil => rfl
    | cons last _ =>
      have last_of : above.getLast? = some last := by
        rw [← List.head?_reverse, reversed, List.head?_cons]
      rw [List.takeWhile_cons_of_neg (by simp [stops last last_of])]
  have run : ((part.take i).reverse ++ above.reverse).takeWhile (fun l => p (Text.trim l)) =
      (part.take i).reverse.takeWhile fun l => p (Text.trim l) := by
    rw [List.takeWhile_append, none_above, List.append_nil]
    split
    · rename_i whole
      exact ((List.takeWhile_prefix _).eq_of_length whole).symm
    · rfl
  have short := (List.takeWhile_prefix (l := (part.take i).reverse)
    (fun l => p (Text.trim l))).length_le
  rw [List.length_reverse, List.length_take] at short
  unfold runAbove
  rw [List.append_assoc, List.take_length_add_append, List.take_append_of_le_length inside,
    List.reverse_append, run]
  omega

theorem indentTail_margin (header : Nat) {lines : List Line} (margin : AtMargin lines) :
    indentTail header lines = 0 := by
  induction lines with
  | nil => rfl
  | cons line rest ih =>
    rw [indentTail]
    split
    · rename_i blank
      rw [ih (margin.of_blank blank)]
    · rename_i solid
      rw [if_pos (by simp [margin.head (Bool.eq_false_iff.mpr solid)])]

theorem indentTail_append (header : Nat) (lines : List Line) (ends : indentTail header below = 0) :
    indentTail header (lines ++ below) = indentTail header lines := by
  induction lines with
  | nil => exact ends
  | cons line rest ih => rw [List.cons_append, indentTail, indentTail, ih]

theorem indentBlockEnd_window (inside : i < part.length) (margin : AtMargin below) :
    indentBlockEnd (above ++ part ++ below) (above.length + i) =
      above.length + indentBlockEnd part i := by
  have header : (above ++ part ++ below)[above.length + i]? = part[i]? := by
    rw [List.append_assoc, List.getElem?_append_right (Nat.le_add_right _ _),
      Nat.add_sub_cancel_left, List.getElem?_append_left inside]
  have body : (above ++ part ++ below).drop (above.length + i + 1) = part.drop (i + 1) ++ below := by
    rw [Nat.add_assoc, List.append_assoc, List.drop_length_add_append,
      List.drop_append_of_le_length inside]
  unfold indentBlockEnd
  rw [header, body, indentTail_append _ _ (indentTail_margin _ margin), Nat.add_assoc]

namespace Python

theorem headerEnd_window (inside : j < part.length) :
    headerEnd (above ++ part ++ below) (above.length + i) (above.length + j) =
      above.length + headerEnd part i j := by
  unfold headerEnd
  rw [span_window inside]
  dsimp only
  split <;> omega

theorem docstringAfter_window (inside : j < part.length) :
    docstringAfter (above ++ part ++ below) (above.length + i) (above.length + j) =
      docstringAfter part i j := by
  unfold docstringAfter
  rw [Nat.add_assoc, span_window inside]

theorem functionConstruct_window {first : Nat} (begins : i ≤ j) (inside : j < part.length)
    (className : Option Line) (groups : Pattern.Groups) :
    functionConstruct (above ++ part ++ below) (above.length + i) (above.length + first)
        (above.length + j) className groups =
      (functionConstruct part i first j className groups).movedDown above.length := by
  have header : headerEnd part i j < part.length :=
    Nat.lt_of_le_of_lt (headerEnd_le begins inside) inside
  unfold functionConstruct
  simp only [headerEnd_window inside, span_window header, construct_window inside,
    Construct.movedDown_setFlag, Construct.movedDown_setList, Construct.movedDown_setOption]

theorem declaration_window (inside : i < part.length) (undecorated : EndsUndecorated above)
    (margin : AtMargin below) (scopes : List Scope) (isClass : Bool) (groups : Pattern.Groups) :
    declaration (above ++ part ++ below) (above.length + i) scopes isClass groups =
      (declaration part i scopes isClass groups).movedDown above.length := by
  have ends : indentBlockEnd part i < part.length := indentBlockEnd_lt inside
  have decorated : runAbove (above ++ part ++ below) (above.length + i)
      (fun l => l.head? == some '@') =
        above.length + runAbove part i fun l => l.head? == some '@' :=
    runAbove_window (Nat.le_of_lt inside) fun line last =>
      beq_eq_false_iff_ne.mpr (undecorated line last)
  unfold declaration
  simp only [decorated, take_drop_window (Nat.le_of_lt inside), indentBlockEnd_window inside margin,
    headerEnd_window ends, docstringAfter_window ends, Construct.movedDown_setFlag,
    Construct.movedDown_setList, Construct.movedDown_setOption]
  split
  · simp only [classConstruct, construct_window ends, Construct.movedDown_setList]
  · rw [functionConstruct_window (le_indentBlockEnd part i) ends]

end Python
end Outline
end CodeAtlas
