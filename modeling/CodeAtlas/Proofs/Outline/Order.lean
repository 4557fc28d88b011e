import CodeAtlas.Extraction
import CodeAtlas.Proofs.Item.Attributes
import CodeAtlas.Proofs.Item.Ids
import CodeAtlas.Proofs.Outline.Block
import CodeAtlas.Proofs.Outline.Steps
import CodeAtlas.Proofs.Outline.Taken

/-!
The order of declarations in a file. A declaration may begin above its header, with the annotations
or decorators that stand there, but never as far up as an earlier header, which is neither. So the
items of a file begin on different lines, one below the other, and have different ids.
-/
namespace CodeAtlas

theorem Text.head_trim {blanks rest : Line} {c : Char} (blank : ∀ d ∈ blanks, isBlank d = true)
    (solid : isBlank c = false) : (trim (blanks ++ c :: rest)).head? = some c := by
  rw [trim, trimStart, List.dropWhile_append_of_pos blank, List.dropWhile_cons_of_neg (by simp [solid]),
    trimEnd, dropEndWhile, List.reverse_cons, List.dropWhile_append]
  split <;> simp [solid]

namespace Construct

variable (c : Construct) (key : String)

@[simp]
theorem startLine_set (value : Json) : (c.set key value).startLine = c.startLine := rfl

@[simp]
theorem startLine_setFlag (value : Bool) : (c.setFlag key value).startLine = c.startLine := rfl

@[simp]
theorem startLine_setOption (value : Option String) :
    (c.setOption key value).startLine = c.startLine :=
  congrArg Extent.startLine (c.extent_setOption key value)

@[simp]
theorem startLine_setList (values : List String) :
    (c.setList key values).startLine = c.startLine :=
  congrArg Extent.startLine (c.extent_setList key values)

end Construct

namespace Outline

/-! Scans whose declarations begin below all earlier headers -/

/-- A declaration with its header on line `i`, counted from zero, begins there or above, yet below
every earlier line that may be a header. -/
structure BeginsFor (header : Nat → Prop) (i : Nat) (c : Construct) : Prop where
  own : header i
  above : c.startLine ≤ i + 1
  below : ∀ j < i, header j → j + 1 < c.startLine

theorem stands_of_drop {lines rest : List Line} {i : Nat} {line : Line}
    (here : lines.drop i = line :: rest) : lines[i]? = some line ∧ lines.drop (i + 1) = rest := by
  constructor
  · rw [← List.head?_drop, here, List.head?_cons]
  · rw [← List.tail_drop, here, List.tail_cons]

theorem scan_ordered {σ : Type} (header : Nat → Prop)
    (step : σ → Nat → Line → Option Construct × σ) (lines : List Line)
    (each : ∀ state i line c, lines[i]? = some line → (step state i line).1 = some c →
      BeginsFor header i c)
    (state : σ) :
    (scan step state 0 lines).Pairwise fun a b => a.startLine < b.startLine := by
  -- Along the scan: what is still to come has its header further down.
  have from_any : ∀ (rest : List Line) (i : Nat) (state : σ), lines.drop i = rest →
      (scan step state i rest).Pairwise (fun a b => a.startLine < b.startLine) ∧
        ∀ c ∈ scan step state i rest, ∃ k, i ≤ k ∧ BeginsFor header k c := by
    intro rest
    induction rest with
    | nil => exact fun _ _ _ => ⟨.nil, fun _ member => nomatch member⟩
    | cons line rest ih =>
      intro i state here
      obtain ⟨stands, below⟩ := stands_of_drop here
      obtain ⟨ordered, later⟩ := ih (i + 1) (step state i line).2 below
      have deeper : ∀ c ∈ scan step (step state i line).2 (i + 1) rest,
          ∃ k, i ≤ k ∧ BeginsFor header k c := by
        intro c member
        obtain ⟨k, far, begins⟩ := later c member
        exact ⟨k, by omega, begins⟩
      have own := each state i line
      unfold scan
      split
      · rename_i next stepped
        rw [stepped] at ordered deeper
        exact ⟨ordered, deeper⟩
      · rename_i found next stepped
        rw [stepped] at ordered later deeper own
        have begins := own found stands rfl
        refine ⟨List.pairwise_cons.mpr ⟨?_, ordered⟩, ?_⟩
        · intro c member
          obtain ⟨k, far, beginsLater⟩ := later c member
          exact Nat.lt_of_le_of_lt begins.above (beginsLater.below i far begins.own)
        · intro c member
          rcases List.mem_cons.mp member with rfl | member
          · exact ⟨i, Nat.le_refl i, begins⟩
          · exact deeper c member
  exact (from_any lines 0 state rfl).1

theorem BeginsFor.at_header {i : Nat} {c : Construct} (first : c.startLine = i + 1) :
    BeginsFor (fun _ => True) i c where
  own := trivial
  above := Nat.le_of_eq first
  below := by
    intro j before _
    omega

def EndsRun (lines : List Line) (p : Line → Bool) (j : Nat) : Prop :=
  ∀ line, lines[j]? = some line → p (Text.trim line) = false

theorem lt_runAbove {lines : List Line} {p : Line → Bool} {i j : Nat} (before : j < i)
    (inside : i < lines.length) (ends : EndsRun lines p j) : j < runAbove lines i p := by
  have reached : j < lines.length := Nat.lt_trans before inside
  have stops : p (Text.trim lines[j]) = false := ends _ (List.getElem?_eq_getElem reached)
  -- Line `j` parts the lines above `i`, and no run from below gets past it.
  have parted : lines.take i = lines.take j ++ lines[j] :: (lines.take i).drop (j + 1) := by
    have whole := (List.take_append_drop j (lines.take i)).symm
    rwa [List.take_take, Nat.min_eq_left (Nat.le_of_lt before),
      List.drop_eq_getElem_cons (by simp; omega), List.getElem_take] at whole
  have between : ((lines.take i).drop (j + 1)).length = i - (j + 1) := by
    rw [List.length_drop, List.length_take]
    omega
  have run : ((lines.take i).reverse.takeWhile fun l => p (Text.trim l)).length ≤ i - (j + 1) := by
    rw [parted, List.reverse_append, List.reverse_cons, List.append_assoc, List.takeWhile_append,
      ← between]
    split
    · simp [stops]
    · exact Nat.le_trans (List.takeWhile_prefix _).length_le (Nat.le_of_eq List.length_reverse)
  unfold runAbove
  omega

theorem BeginsFor.at_run {lines : List Line} {p : Line → Bool} {i : Nat} {c : Construct}
    (inside : i < lines.length) (own : EndsRun lines p i)
    (first : c.startLine = runAbove lines i p + 1) : BeginsFor (EndsRun lines p) i c where
  own := own
  above := by
    rw [first]
    exact Nat.succ_le_succ (runAbove_le lines i p)
  below := by
    intro j before ends
    rw [first]
    exact Nat.succ_lt_succ (lt_runAbove before inside ends)

/-! The languages -/

variable {lines : List Line} {i : Nat} {line : Line} {c : Construct}

namespace Go

theorem function_startLine (groups : Pattern.Groups) :
    (function lines i groups).startLine = i + 1 := by
  simp [function, construct]

theorem type_startLine (groups : Pattern.Groups) : (type lines i groups).startLine = i + 1 := by
  unfold type
  dsimp only
  split <;> simp [construct]

theorem outline_ordered (source : Line) :
    (outline source).Pairwise fun a b => a.startLine < b.startLine := by
  refine scan_ordered (fun _ => True) _ _ ?_ ()
  intro _ i line c _ found
  apply BeginsFor.at_header
  rcases declaration_cases found with ⟨groups, -, rfl⟩ | ⟨groups, -, -, rfl⟩
  · exact function_startLine groups
  · exact type_startLine groups

end Go

namespace Java

theorem type_startLine (types : List OpenType) (groups : Pattern.Groups) :
    (type lines i types groups).startLine = runAbove lines i isAnnotation + 1 := by
  unfold type
  dsimp only
  split <;> simp [headed, construct]

theorem member_startLine (enclosing : OpenType) (kind : ItemKind) (groups : Pattern.Groups) :
    (member lines i enclosing kind groups).startLine = runAbove lines i isAnnotation + 1 := by
  simp [member, headed, construct]

theorem outline_ordered (source : Line) :
    (outline source).Pairwise fun a b => a.startLine < b.startLine := by
  refine scan_ordered (EndsRun (Text.lines source) isAnnotation) _ _ ?_ []
  intro types i line c stands found
  obtain ⟨plain, made⟩ := step_cases found
  have own : EndsRun (Text.lines source) isAnnotation i := by
    intro other same
    cases stands.symm.trans same
    exact plain
  refine BeginsFor.at_run (List.getElem?_eq_some_iff.mp stands).1 own ?_
  rcases made with ⟨groups, -, rfl⟩ | ⟨enclosing, _, kind, groups, -, -, -, -, rfl⟩
  · exact type_startLine _ groups
  · exact member_startLine enclosing kind groups

end Java

namespace Python

/-- A header begins with one of three words, so it is no decorator. -/
theorem header_not_decorator {isClass : Bool} {groups : Pattern.Groups}
    (header : header? line = some (isClass, groups)) :
    ((Text.trim line).head? == some '@') = false := by
  have begins : ∃ b c rest, line = b ++ c :: rest ∧ (∀ d ∈ b, Text.isBlank d = true) ∧
      c ∈ ['a', 'd', 'c'] := by
    unfold header? at header
    split at header
    · rename_i matched
      obtain ⟨taken, after, takes, rfl⟩ := Pattern.takes_of_match matched
      obtain ⟨b, c, rest, rfl, blank, word⟩ := functionHeader_takes takes
      exact ⟨b, c, rest ++ after, by simp, blank, List.mem_append_left ['c'] word⟩
    · obtain ⟨found, matched, -⟩ := Option.map_eq_some_iff.mp header
      obtain ⟨taken, after, takes, rfl⟩ := Pattern.takes_of_match matched
      obtain ⟨b, rest, rfl, blank⟩ := classHeader_takes takes
      exact ⟨b, 'c', rest ++ after, by simp, blank, by decide⟩
  obtain ⟨b, c, rest, rfl, blank, word⟩ := begins
  have letter : Text.isBlank c = false ∧ (some c == some '@') = false := by
    simp only [List.mem_cons, List.not_mem_nil, or_false] at word
    rcases word with rfl | rfl | rfl <;> decide
  obtain ⟨solid, other⟩ := letter
  rw [Text.head_trim blank solid]
  exact other

theorem declaration_startLine (scopes : List Scope) (isClass : Bool) (groups : Pattern.Groups) :
    (declaration lines i scopes isClass groups).startLine =
      runAbove lines i (fun l => l.head? == some '@') + 1 := by
  unfold declaration
  dsimp only
  split <;> simp [classConstruct, functionConstruct, construct]

theorem outline_ordered (source : Line) :
    (outline source).Pairwise fun a b => a.startLine < b.startLine := by
  refine scan_ordered (EndsRun (Text.lines source) fun l => l.head? == some '@') _ _ ?_ []
  intro scopes i line c stands found
  obtain ⟨isClass, groups, header, rfl⟩ := step_cases found
  have own : EndsRun (Text.lines source) (fun l => l.head? == some '@') i := by
    intro other same
    cases stands.symm.trans same
    exact header_not_decorator header
  exact BeginsFor.at_run (List.getElem?_eq_some_iff.mp stands).1 own
    (declaration_startLine _ isClass groups)

end Python

namespace TypeScript

theorem member_startLine {className : Line} (found : member? lines i line className = some c) :
    c.startLine = i + 1 := by
  obtain ⟨groups, ⟨-, rfl⟩ | ⟨-, -, rfl⟩⟩ := member_cases found
  · simp [arrowField, headed, construct]
  · simp [method, headed, construct]

theorem exported_startLine (groups : Pattern.Groups) (found : Construct) :
    (exported lines i groups found).startLine = found.startLine := by
  simp [exported]

theorem other_startLine (found : other? lines i line = some c) : c.startLine = i + 1 := by
  obtain ⟨make, among, groups, rfl⟩ := other_cases found
  rw [exported_startLine]
  simp only [otherHeaders, List.map_cons, List.map_nil, List.mem_cons, List.not_mem_nil,
    or_false] at among
  rcases among with rfl | rfl | rfl | rfl
  · simp [functionConstruct, headed, construct]
  · simp [interfaceConstruct, headed, construct]
  · simp [typeConstruct, headed, construct]
  · simp [arrowConstruct, headed, construct]

theorem outline_ordered (source : Line) :
    (outline source).Pairwise fun a b => a.startLine < b.startLine := by
  refine scan_ordered (fun _ => True) _ _ ?_ []
  intro types i line c _ found
  apply BeginsFor.at_header
  rcases step_cases found with ⟨t, -, -, declared⟩ | ⟨groups, -, rfl⟩ | declared
  · exact member_startLine declared
  · rw [exported_startLine]
    simp [classConstruct, headed, construct]
  · exact other_startLine declared

end TypeScript
end Outline

theorem Language.outline_ordered (language : Language) (source : Line) :
    (language.outline source).Pairwise fun a b => a.startLine < b.startLine := by
  cases language with
  | go => exact Outline.Go.outline_ordered source
  | java => exact Outline.Java.outline_ordered source
  | python => exact Outline.Python.outline_ordered source
  | typeScript | javaScript => exact Outline.TypeScript.outline_ordered source

/-- Items read line by line begin on different lines, one below the other, and so no two of them have
the same id. -/
theorem outlined_items_begin_in_order (language : Language) (path : String) (source : Line)
    (extractedAt : Timestamp) :
    let items := extractItems language path source none extractedAt
    (items.map Item.startLine).Pairwise (· < ·) ∧ (items.map Item.id).Nodup := by
  intro items
  have made : items = (language.outline source).map (SourceFile.item (.ofPath path
      ((Language.ofPath? (Path.ofString path)).getD language) extractedAt)) := rfl
  have ordered : (language.outline source).Pairwise fun a b => a.startLine < b.startLine :=
    language.outline_ordered source
  constructor
  · rw [made, List.pairwise_map, List.pairwise_map]
    simpa only [SourceFile.item_startLine] using ordered
  · rw [made, List.Nodup, List.pairwise_map, List.pairwise_map]
    exact ordered.imp fun before same => Nat.ne_of_lt before (SourceFile.startLine_of_id same)

end CodeAtlas
