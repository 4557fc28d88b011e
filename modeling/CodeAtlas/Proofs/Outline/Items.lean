import CodeAtlas.Proofs.Item.Attributes
import CodeAtlas.Proofs.Item.Layers
import CodeAtlas.Proofs.Outline.Counting
import CodeAtlas.Proofs.Outline.Covering
import CodeAtlas.Proofs.Outline.Groups
import CodeAtlas.Proofs.Text.Lines

/-!
Items read line by line from any text whatever. Nothing that is looked up on the way is missing, and
each item takes whole lines of its file and has no layer but their text.
-/
namespace CodeAtlas

structure Outline.StaysInside (lines : List Line) (i : Nat) : Prop where
  depth : i < (depthProfile lines).length
  above : ∀ p, runAbove lines i p ≤ i
  braces : i ≤ braceBlockEnd lines i ∧ braceBlockEnd lines i < lines.length
  indented : i ≤ indentBlockEnd lines i ∧ indentBlockEnd lines i < lines.length
  header : i ≤ Python.headerEnd lines i (indentBlockEnd lines i) ∧
    Python.headerEnd lines i (indentBlockEnd lines i) ≤ indentBlockEnd lines i
  closing : ∀ quote opening later n, Python.closingLine? quote opening later = some n →
    n < (opening :: later).length

theorem Outline.staysInside {lines : List Line} {i : Nat} (inside : i < lines.length) :
    StaysInside lines i where
  depth := by rwa [depthProfile_length]
  above := runAbove_le lines i
  braces := ⟨le_braceBlockEnd lines i, braceBlockEnd_lt inside⟩
  indented := ⟨le_indentBlockEnd lines i, indentBlockEnd_lt inside⟩
  header := ⟨Python.le_headerEnd lines i _,
    Python.headerEnd_le (le_indentBlockEnd lines i) (indentBlockEnd_lt inside)⟩
  closing := fun _ _ _ _ found => Nat.lt_succ_of_le (Python.closingLine_le found)

/-- Counters that stay in their range over the lines of a file: those of the braces from any line on,
the depth of a type's body, which is one more than that of its line, and those of the brackets over
any piece of a line. -/
structure Outline.CountersHold (lines : List Line) : Prop where
  braces : ∀ i, StaysInRange braceShift (lines.drop i).flatten
  depths : ∀ i < lines.length, (depthAt lines i).toInt = total braceShift (lines.take i).flatten
  bodies : ∀ i < lines.length, (depthAt lines i + 1).toInt = (depthAt lines i).toInt + 1
  brackets : ∀ line ∈ lines, ∀ list, list <:+: line → StaysInRange bracketShift list

theorem Outline.countersHold {lines : List Line} (few : FewBrackets lines.flatten) :
    CountersHold lines where
  braces i := counts_braceShift.staysInRange few (List.drop_suffix i lines).isInfix.flatten
  depths _ inside := toInt_depthAt few inside
  bodies _ inside := toInt_depthAt_succ few inside
  brackets := by
    intro line among list piece
    obtain ⟨front, back, rfl⟩ := List.append_of_mem among
    have whole : line <:+: (front ++ line :: back).flatten :=
      ⟨front.flatten, back.flatten, by simp⟩
    exact counts_bracketShift.staysInRange few (piece.trans whole)

/-- The patterns a language is read with, each with the groups that are taken from its matches
without asking whether they are there. -/
def Language.patterns : Language → List (Pattern × List String)
  | go => [(Outline.Go.functionHeader, ["name"]), (Outline.Go.typeHeader, ["name", "rest"])]
  | java =>
    [(Outline.Java.typeHeader, ["modifiers", "keyword", "name", "rest"]),
     (Outline.Java.methodHeader, ["modifiers", "return", "name", "rest"]),
     (Outline.Java.constructorHeader, ["modifiers", "name", "rest"]),
     (Outline.extendsPart, ["types"]), (Outline.implementsPart, ["types"])]
  | python =>
    [(Outline.Python.functionHeader, ["name"]), (Outline.Python.classHeader, ["name"]),
     (Outline.Python.returnPart, ["return"])]
  | typeScript | javaScript =>
    [(Outline.TypeScript.functionHeader, ["name", "rest"]),
     (Outline.TypeScript.classHeader, ["name", "rest"]),
     (Outline.TypeScript.interfaceHeader, ["name", "rest"]),
     (Outline.TypeScript.typeHeader, ["name", "rest"]),
     (Outline.TypeScript.arrowHeader, ["name"]),
     (Outline.TypeScript.fieldHeader, ["modifiers", "name"]),
     (Outline.TypeScript.methodHeader, ["modifiers", "name", "rest"]),
     (Outline.TypeScript.returnPart, ["return"]),
     (Outline.extendsPart, ["types"]), (Outline.implementsPart, ["types"])]

theorem Language.patterns_set (language : Language) :
    ∀ entry ∈ language.patterns, ∀ name ∈ entry.2, entry.1.sets name = true := by
  cases language <;> decide

structure Item.TakesLines (lines : List Line) (stem : String) (item : Item) : Prop where
  first : 1 ≤ item.startLine
  ordered : item.startLine ≤ item.endLine
  last : item.endLine ≤ lines.length
  code : item.code =
    String.ofList (Text.joinLines ((lines.take item.endLine).drop (item.startLine - 1)))
  sourceLength : item.metadata.get? "sourceLength" = some (.ofNat item.code.utf8ByteSize)
  lineFeeds : item.code.toList.count '\n' = item.endLine - item.startLine
  id : item.id = deriveId stem item.name item.startLine
  unlinked : item.dependencies = []
  undescribed : item.Undescribed
  unembedded : item.vector = none

theorem SourceFile.item_takesLines (file : SourceFile) {source : Line} {c : Construct}
    (covers : c.Covers (Text.lines source)) :
    (file.item c).TakesLines (Text.lines source) file.stem where
  first := by
    rw [item_startLine]
    exact covers.first
  ordered := by
    rw [item_startLine, item_endLine]
    exact covers.ordered
  last := by
    rw [item_endLine]
    exact covers.last
  code := by
    rw [item_startLine, item_endLine]
    exact covers.code
  sourceLength := attributes_sourceLength file c
  lineFeeds := by
    have clean : ∀ line ∈ ((Text.lines source).take c.endLine).drop (c.startLine - 1),
        '\n' ∉ line := fun line among =>
      Text.not_mem_of_lines source line (List.mem_of_mem_take (List.mem_of_mem_drop among))
    have ordered := covers.ordered
    have last := covers.last
    have first := covers.first
    rw [item_startLine, item_endLine]
    change c.code.toList.count '\n' = _
    rw [covers.code, String.toList_ofList, Text.count_joinLines _ clean, List.length_drop,
      List.length_take]
    omega
  id := by
    rw [item_startLine]
    rfl
  unlinked := rfl
  undescribed := ⟨rfl, rfl, rfl⟩
  unembedded := rfl

/-- Whatever the text, the scans of its lines stay inside it, every match has the groups that are taken
from it, all of them pieces of what was matched, and what is found takes whole lines of the text. No
counter overflows where there are few brackets. -/
theorem outlined_items_take_whole_lines (language : Language) (path : String) (source : Line)
    (extractedAt : Timestamp) :
    let lines := Text.lines source
    let stem := String.ofList ((Path.ofString path).fileStem?.getD [])
    (∀ i < lines.length, Outline.StaysInside lines i) ∧
      (∀ entry ∈ language.patterns, ∀ text groups,
        entry.1.match? text = some groups ∨ entry.1.search? text = some groups →
        (∀ name ∈ entry.2, groups.has name = true) ∧ ∀ found ∈ groups, found.2 <:+: text) ∧
      (Outline.FewBrackets lines.flatten → Outline.CountersHold lines) ∧
      ∀ item ∈ extractItems language path source none extractedAt, item.TakesLines lines stem := by
  intro lines stem
  refine ⟨fun i => Outline.staysInside, ?_, Outline.countersHold, ?_⟩
  · intro entry among text groups either
    have matched : entry.1.Matched text groups :=
      either.elim Pattern.matched_of_match Pattern.matched_of_search
    exact ⟨fun name needed => matched.promised name (language.patterns_set entry among name needed),
      matched.pieces⟩
  · intro item member
    obtain ⟨c, found, rfl⟩ := List.mem_map.mp member
    exact SourceFile.item_takesLines (.ofPath path _ extractedAt)
      (language.outline_covers source c found)

theorem decorated_function_takes_three_lines :
    let source := "@wraps\ndef area(x):\n    return x\n\nside = 1".toList
    Outline.FewBrackets (Text.lines source).flatten ∧ Outline.CountersHold (Text.lines source) ∧
      ∃ item ∈ extractItems .python "src/shapes.py" source none ⟨0, 0⟩,
        item.startLine = 1 ∧ item.endLine = 3 ∧
          item.TakesLines (Text.lines source) "shapes" := by
  intro source
  obtain ⟨-, -, counters, each⟩ :=
    outlined_items_take_whole_lines .python "src/shapes.py" source ⟨0, 0⟩
  have found : (extractItems .python "src/shapes.py" source none ⟨0, 0⟩).head?.map
      (fun item => (item.startLine, item.endLine)) = some (1, 3) := by decide +kernel
  obtain ⟨item, first, places⟩ := Option.map_eq_some_iff.mp found
  have member := List.mem_of_head? first
  have few : Outline.FewBrackets (Text.lines source).flatten := by decide +kernel
  exact ⟨few, counters few, item, member, congrArg Prod.fst places, congrArg Prod.snd places,
    each item member⟩

end CodeAtlas
