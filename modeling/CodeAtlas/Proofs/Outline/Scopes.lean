import CodeAtlas.Proofs.Outline.Enclosing

/-!
Members of Python classes. The scopes that are open are found by the indentation of code alone, the
end of a class by that of all lines which are not blank. So an item that names its class lies inside
it, unless a comment between their headers is indented no deeper than the class: then the class ends
above that comment, and the item begins below it.
-/
namespace CodeAtlas
namespace Outline

/-! Indented blocks -/

def StaysIndented (header : Nat) (line : Line) : Prop :=
  Text.allBlank line = true ∨ header < indentOf line

theorem lt_indentTail_iff {header : Nat} {lines : List Line} {n : Nat} {line : Line}
    (stands : lines[n]? = some line) (solid : Text.allBlank line = false) :
    n < indentTail header lines ↔ ∀ l ∈ lines.take (n + 1), StaysIndented header l := by
  induction lines generalizing n with
  | nil => cases stands
  | cons first rest ih =>
    rw [List.take_succ_cons, List.forall_mem_cons, indentTail]
    cases n with
    | zero =>
      cases stands
      by_cases shallow : indentOf line ≤ header <;> simp [StaysIndented, solid, shallow]
      omega
    | succ n =>
      rw [← ih stands]
      by_cases blank : Text.allBlank first = true
      · have stays : StaysIndented header first := .inl blank
        rw [if_pos blank]
        cases indentTail header rest <;> simp [stays]
      · simp only [StaysIndented, blank, false_or, if_false, Bool.false_eq_true]
        split <;> omega

theorem solid_of_indentTail {header : Nat} {lines : List Line} {n : Nat}
    (last : indentTail header lines = n + 1) :
    ∃ line, lines[n]? = some line ∧ Text.allBlank line = false := by
  induction lines generalizing n with
  | nil => cases last
  | cons first rest ih =>
    rw [indentTail] at last
    split at last
    · split at last
      · cases last
      · rename_i k tail
        obtain rfl : k + 1 = n := Nat.succ_inj.mp last
        exact ih tail
    · rename_i solid
      split at last
      · cases last
      · cases n with
        | zero => exact ⟨first, rfl, Bool.not_eq_true _ |>.mp solid⟩
        | succ n => exact ih (by omega)

variable {lines : List Line} {p i : Nat} {header line : Line}

theorem le_indentBlockEnd_iff (below : p < i) (head : lines[p]? = some header)
    (stands : lines[i]? = some line) (solid : Text.allBlank line = false) :
    i ≤ indentBlockEnd lines p ↔
      ∀ j l, p < j → j ≤ i → lines[j]? = some l → StaysIndented (indentOf header) l := by
  obtain ⟨n, rfl⟩ := Nat.exists_eq_add_of_lt below
  have found : (lines.drop (p + 1))[n]? = some line := by
    rw [List.getElem?_drop, ← stands, Nat.add_right_comm]
  have ends : p + n + 1 ≤ indentBlockEnd lines p ↔
      n < indentTail (indentOf header) (lines.drop (p + 1)) := by
    rw [indentBlockEnd, head, Option.getD_some]
    omega
  rw [ends, lt_indentTail_iff found solid]
  constructor
  · intro stays j l after before here
    apply stays
    apply List.mem_iff_getElem?.mpr
    refine ⟨j - (p + 1), ?_⟩
    rw [List.getElem?_take_of_lt (by omega), List.getElem?_drop, Nat.add_sub_cancel' after, here]
  · intro stays l member
    obtain ⟨j, here⟩ := List.mem_iff_getElem?.mp member
    rw [List.getElem?_take] at here
    split at here
    · rw [List.getElem?_drop] at here
      exact stays (p + 1 + j) l (by omega) (by omega) here
    · cases here

/-- A block reaches the end of another one that begins inside it. -/
theorem indentBlockEnd_inside (below : p < i) (head : lines[p]? = some header)
    (stands : lines[i]? = some line) (solid : Text.allBlank line = false)
    (within : i ≤ indentBlockEnd lines p) : indentBlockEnd lines i ≤ indentBlockEnd lines p := by
  have above := (le_indentBlockEnd_iff below head stands solid).mp within
  have deeper : indentOf header < indentOf line :=
    (above i line below (Nat.le_refl i) stands).resolve_left (by simp [solid])
  cases tail : indentTail (indentOf line) (lines.drop (i + 1)) with
  | zero =>
    have ends : indentBlockEnd lines i = i := by
      rw [indentBlockEnd, stands, Option.getD_some, tail, Nat.add_zero]
    exact Nat.le_trans (Nat.le_of_eq ends) within
  | succ n =>
    have ends : indentBlockEnd lines i = i + 1 + n := by
      rw [indentBlockEnd, stands, Option.getD_some, tail]
      omega
    obtain ⟨last, found, full⟩ := solid_of_indentTail tail
    rw [List.getElem?_drop] at found
    rw [ends, le_indentBlockEnd_iff (by omega) head found full]
    intro j l after before here
    rcases Nat.lt_or_ge i j with later | earlier
    · have inner := (le_indentBlockEnd_iff (by omega) stands found full).mp (Nat.le_of_eq ends.symm)
      exact (inner j l later before here).imp_right (Nat.lt_trans deeper)
    · exact above j l after earlier here

namespace Python

/-! Scopes -/

def isComment (line : Line) : Bool := (Text.trimStart line).head? == some '#'

def isCode (line : Line) : Bool := !(Text.allBlank line || isComment line)

/-- A comment stands between two headers and is indented no deeper than the first of them. -/
def CutOff (lines : List Line) (p i : Nat) : Prop :=
  ∃ header j line, lines[p]? = some header ∧ p < j ∧ j < i ∧ lines[j]? = some line ∧
    isComment line = true ∧ indentOf line ≤ indentOf header

end Python
end Outline

/-- The item names another one, a class, as what it is declared in. It lies inside the class, or all
below it if a comment cuts it off. -/
structure Item.ScopedIn (lines : List Line) (item owner : Item) : Prop where
  className : item.metadata.get? "className" = some (.string owner.name)
  isClass : owner.kind = .class
  below : owner.startLine < item.startLine
  within : ¬ Outline.Python.CutOff lines (Language.python.headerLine lines owner)
    (Language.python.headerLine lines item) → item.endLine ≤ owner.endLine
  apart : Outline.Python.CutOff lines (Language.python.headerLine lines owner)
    (Language.python.headerLine lines item) → owner.endLine < item.startLine

namespace Outline.Python

variable {lines : List Line} {done : List Construct} {i p : Nat} {s : Scope} {header line : Line}

theorem step_scopes (lines : List Line) (scopes : List Scope) (i : Nat) (line : Line) :
    isCode line = false ∧ step lines scopes i line = (none, scopes) ∨
      isCode line = true ∧
        (step lines scopes i line = (none, enclosing (indentOf line) scopes) ∨
          ∃ isClass groups, header? line = some (isClass, groups) ∧
            step lines scopes i line =
              (some (declaration lines i (enclosing (indentOf line) scopes) isClass groups),
                ⟨isClass, indentOf line, groups.get "name"⟩ :: enclosing (indentOf line) scopes)) := by
  unfold step isCode isComment
  split
  · rename_i skipped
    exact .inl ⟨by simp [skipped], rfl⟩
  · rename_i read
    refine .inr ⟨by simp [read], ?_⟩
    dsimp only
    split
    · exact .inl rfl
    · rename_i isClass groups header
      exact .inr ⟨isClass, groups, header, rfl⟩

/-- Scopes from the inside out are indented less and less, so all that a line closes are closed. -/
theorem mem_enclosing {indent : Nat} {scopes : List Scope} {s : Scope}
    (ordered : scopes.Pairwise fun inner outer => outer.indent < inner.indent)
    (member : s ∈ enclosing indent scopes) : s ∈ scopes ∧ s.indent < indent := by
  refine ⟨(List.dropWhile_suffix _).subset member, ?_⟩
  induction scopes with
  | nil => cases member
  | cons inner outer ih =>
    obtain ⟨least, rest⟩ := List.pairwise_cons.mp ordered
    by_cases closed : indent ≤ inner.indent
    · rw [enclosing, List.dropWhile_cons_of_pos (by simpa using closed)] at member
      exact ih rest member
    · rw [enclosing, List.dropWhile_cons_of_neg (by simpa using closed)] at member
      rcases List.mem_cons.mp member with rfl | further
      · exact Nat.not_le.mp closed
      · exact Nat.lt_trans (least s further) (Nat.not_le.mp closed)

theorem declaration_className (lines : List Line) (i : Nat) (scopes : List Scope) (isClass : Bool)
    (groups : Pattern.Groups) :
    (declaration lines i scopes isClass groups).attribute? "className" =
      ((scopes.head?.filter Scope.isClass).map Scope.name).map fun name =>
        .string (String.ofList name) := by
  unfold declaration
  dsimp only
  split <;>
    simp [classConstruct, functionConstruct, Construct.attribute_setOption_self, Function.comp_def]

theorem declaration_heading (lines : List Line) (i : Nat) (scopes : List Scope)
    (groups : Pattern.Groups) :
    (declaration lines i scopes true groups).heading =
      (.class, String.ofList (groups.get "name")) := by
  simp [declaration, classConstruct]

structure DeclaredAt (lines : List Line) (i : Nat) (c : Construct) : Prop where
  header : EndsRun lines Language.python.isMark i
  first : c.startLine = runAbove lines i Language.python.isMark + 1
  last : c.endLine = indentBlockEnd lines i + 1

theorem declaration_declaredAt {isClass : Bool} {groups : Pattern.Groups}
    (stands : lines[i]? = some line) (found : header? line = some (isClass, groups))
    (scopes : List Scope) : DeclaredAt lines i (declaration lines i scopes isClass groups) where
  header := by
    intro other same
    cases stands.symm.trans same
    exact header_not_decorator found
  first := declaration_startLine scopes isClass groups
  last := by
    let block := construct .type [] lines (runAbove lines i fun l => l.head? == some '@')
      (indentBlockEnd lines i)
    have same : (declaration lines i scopes isClass groups).extent = block.extent := by
      unfold declaration
      dsimp only
      split <;> simp [classConstruct, functionConstruct] <;> rfl
    exact congrArg Extent.endLine same

theorem DeclaredAt.headerLine {c : Construct} (declared : DeclaredAt lines i c)
    (stands : lines[i]? = some line) (file : SourceFile) :
    Language.python.headerLine lines (file.item c) = i :=
  Language.headerLine_item .python file stands (declared.header line stands) declared.first

/-! Comments -/

theorem comment_cases (comment : isComment line = true) :
    ∃ blanks rest, line = blanks ++ '#' :: rest ∧ ∀ c ∈ blanks, Text.isBlank c = true := by
  have parted := List.takeWhile_append_dropWhile (p := Text.isBlank) (l := line)
  have first : (line.dropWhile Text.isBlank).head? = some '#' := by
    simpa [isComment, Text.trimStart] using comment
  obtain ⟨rest, begins⟩ := List.head?_eq_some_iff.mp first
  rw [begins] at parted
  exact ⟨_, rest, parted.symm, List.all_eq_true.mp List.all_takeWhile⟩

theorem solid_of_comment (comment : isComment line = true) : Text.allBlank line = false := by
  obtain ⟨blanks, rest, rfl, -⟩ := comment_cases comment
  have solid : Text.isBlank '#' = false := by decide
  simp [Text.allBlank, solid]

theorem endsRun_of_comment (stands : lines[i]? = some line) (comment : isComment line = true) :
    EndsRun lines Language.python.isMark i := by
  intro other same
  cases stands.symm.trans same
  obtain ⟨blanks, rest, rfl, blank⟩ := comment_cases comment
  change ((Text.trim (blanks ++ '#' :: rest)).head? == some '@') = false
  rw [Text.head_trim blank (by decide)]
  decide

/-! The invariant of the open scopes -/

/-- A scope at line `i`, with its header on line `p`: all code in between is indented deeper, and a
class has its declaration. -/
structure ScopeAbove (lines : List Line) (done : List Construct) (i : Nat) (s : Scope) (p : Nat)
    (header : Line) : Prop where
  above : p < i
  stands : lines[p]? = some header
  indent : indentOf header = s.indent
  code : ∀ j l, p < j → j < i → lines[j]? = some l → isCode l = true → s.indent < indentOf l
  declared : s.isClass = true → ∃ owner ∈ done, DeclaredAt lines p owner ∧
    owner.heading = (.class, String.ofList s.name)

theorem ScopeAbove.later (scope : ScopeAbove lines done i s p header)
    (stands : lines[i]? = some line) (inside : isCode line = true → s.indent < indentOf line)
    (found : List Construct) : ScopeAbove lines (done ++ found) (i + 1) s p header where
  above := Nat.lt_succ_of_lt scope.above
  stands := scope.stands
  indent := scope.indent
  code := by
    intro j l after before here read
    rcases Nat.lt_succ_iff_lt_or_eq.mp before with earlier | rfl
    · exact scope.code j l after earlier here read
    · cases stands.symm.trans here
      exact inside read
  declared := by
    intro isClass
    obtain ⟨owner, listed, declared⟩ := scope.declared isClass
    exact ⟨owner, List.mem_append_left found listed, declared⟩

/-- The block ends above the comment, and what is below the comment begins there. -/
theorem CutOff.apart (cut : CutOff lines p i) (stands : lines[i]? = some line) :
    indentBlockEnd lines p < runAbove lines i Language.python.isMark := by
  obtain ⟨first, j, l, head, after, before, here, comment, shallow⟩ := cut
  have ends : indentBlockEnd lines p < j := by
    apply Nat.not_le.mp
    intro reaches
    have stays := (le_indentBlockEnd_iff after head here (solid_of_comment comment)).mp reaches
    rcases stays j l after (Nat.le_refl j) here with blank | deeper
    · exact absurd blank (by simp [solid_of_comment comment])
    · exact Nat.not_lt.mpr shallow deeper
  have inside := (List.getElem?_eq_some_iff.mp stands).1
  exact Nat.lt_trans ends (lt_runAbove before inside (endsRun_of_comment here comment))

theorem ScopeAbove.within (scope : ScopeAbove lines done i s p header)
    (stands : lines[i]? = some line) (read : isCode line = true)
    (inside : s.indent < indentOf line) (free : ¬ CutOff lines p i) :
    indentBlockEnd lines i ≤ indentBlockEnd lines p := by
  have solid : Text.allBlank line = false := by
    simp only [isCode, Bool.not_eq_true', Bool.or_eq_false_iff] at read
    exact read.1
  apply indentBlockEnd_inside scope.above scope.stands stands solid
  apply (le_indentBlockEnd_iff scope.above scope.stands stands solid).mpr
  intro j l after before here
  -- In between stand blank lines, code inside the scope, and comments that do not cut off.
  rcases Nat.lt_or_eq_of_le before with earlier | rfl
  · cases blank : Text.allBlank l with
    | true => exact .inl blank
    | false =>
      cases comment : isComment l with
      | false =>
        have code : isCode l = true := by simp [isCode, blank, comment]
        exact .inr (scope.indent ▸ scope.code j l after earlier here code)
      | true =>
        refine .inr (Nat.not_le.mp fun shallow => free ?_)
        exact ⟨header, j, l, scope.stands, after, earlier, here, comment, shallow⟩
  · cases stands.symm.trans here
    exact .inr (scope.indent ▸ inside)

theorem ScopeAbove.scopedIn {scopes : List Scope} {isClass : Bool} {groups : Pattern.Groups}
    {owner : Construct} (scope : ScopeAbove lines done i s p header)
    (inside : s.indent < indentOf line) (stands : lines[i]? = some line)
    (read : isCode line = true) (found : header? line = some (isClass, groups))
    (ownerDeclared : DeclaredAt lines p owner)
    (heading : owner.heading = (.class, String.ofList s.name))
    (named : (declaration lines i scopes isClass groups).attribute? "className" =
      some (.string (String.ofList s.name))) (file : SourceFile) :
    (file.item (declaration lines i scopes isClass groups)).ScopedIn lines (file.item owner) := by
  have declared := declaration_declaredAt stands found scopes
  have last := (List.getElem?_eq_some_iff.mp stands).1
  constructor
  · rw [SourceFile.item_attribute _ _ (by decide), named]
    exact congrArg (some ∘ Json.string) (congrArg Prod.snd heading).symm
  · exact congrArg Prod.fst heading
  · rw [SourceFile.item_startLine, SourceFile.item_startLine, declared.first, ownerDeclared.first]
    have apart := lt_runAbove scope.above last ownerDeclared.header
    have first := runAbove_le lines p Language.python.isMark
    omega
  · rw [declared.headerLine stands, ownerDeclared.headerLine scope.stands]
    intro free
    rw [SourceFile.item_endLine, SourceFile.item_endLine, declared.last, ownerDeclared.last]
    exact Nat.succ_le_succ (scope.within stands read inside free)
  · rw [declared.headerLine stands, ownerDeclared.headerLine scope.stands]
    intro cut
    rw [SourceFile.item_endLine, SourceFile.item_startLine, declared.first, ownerDeclared.last]
    exact Nat.succ_lt_succ (cut.apart stands)

structure ScopesKept (lines : List Line) (done : List Construct) (i : Nat) (scopes : List Scope) :
    Prop where
  ordered : scopes.Pairwise fun inner outer => outer.indent < inner.indent
  each : ∀ s ∈ scopes, ∃ p header, ScopeAbove lines done i s p header

theorem ScopesKept.enclosing {scopes : List Scope} (kept : ScopesKept lines done i scopes)
    (stands : lines[i]? = some line) (found : List Construct) :
    ScopesKept lines (done ++ found) (i + 1) (enclosing (indentOf line) scopes) where
  ordered := kept.ordered.sublist (List.dropWhile_sublist _)
  each := by
    intro s member
    obtain ⟨listed, inside⟩ := mem_enclosing kept.ordered member
    obtain ⟨p, header, scope⟩ := kept.each s listed
    exact ⟨p, header, scope.later stands (fun _ => inside) found⟩

theorem step_kept {scopes : List Scope} (kept : ScopesKept lines done i scopes)
    (stands : lines[i]? = some line) :
    ScopesKept lines (done ++ (step lines scopes i line).1.toList) (i + 1)
      (step lines scopes i line).2 := by
  -- A line that is not read leaves all scopes open; any other closes those it is not inside of.
  rcases step_scopes lines scopes i line with ⟨skipped, same⟩ | ⟨read, same | opened⟩
  · rw [same]
    refine ⟨kept.ordered, fun s member => ?_⟩
    obtain ⟨p, header, scope⟩ := kept.each s member
    exact ⟨p, header, scope.later stands (fun read => absurd read (by simp [skipped])) _⟩
  · rw [same]
    exact kept.enclosing stands _
  · obtain ⟨isClass, groups, found, same⟩ := opened
    rw [same]
    have outer := kept.enclosing stands
      [declaration lines i (Python.enclosing (indentOf line) scopes) isClass groups]
    constructor
    · refine List.pairwise_cons.mpr ⟨fun s member => ?_, outer.ordered⟩
      exact (mem_enclosing kept.ordered member).2
    · intro s member
      rcases List.mem_cons.mp member with rfl | further
      · refine ⟨i, line, Nat.lt_succ_self i, stands, rfl, ?_, ?_⟩
        · intro j l after before
          omega
        · intro isClass
          cases isClass
          exact ⟨_, List.mem_append_right _ List.mem_cons_self,
            declaration_declaredAt stands found _, declaration_heading lines i _ groups⟩
      · exact outer.each s further

theorem step_scopedIn {scopes : List Scope} (kept : ScopesKept lines done i scopes)
    (stands : lines[i]? = some line) {c : Construct} (found : (step lines scopes i line).1 = some c)
    {value : Json} (named : c.attribute? "className" = some value) (file : SourceFile) :
    ∃ owner ∈ done, (file.item c).ScopedIn lines (file.item owner) := by
  rcases step_scopes lines scopes i line with ⟨-, same⟩ | ⟨read, same | opened⟩
  · rw [same] at found
    cases found
  · rw [same] at found
    cases found
  · obtain ⟨isClass, groups, header, same⟩ := opened
    rw [same] at found
    cases found
    have className := declaration_className lines i (enclosing (indentOf line) scopes) isClass groups
    rw [named, Option.map_map] at className
    obtain ⟨s, innermost, rfl⟩ := Option.map_eq_some_iff.mp className.symm
    obtain ⟨first, isScopeOfClass⟩ := Option.filter_eq_some_iff.mp innermost
    obtain ⟨listed, inside⟩ := mem_enclosing kept.ordered (List.mem_of_mem_head? first)
    obtain ⟨p, head, scope⟩ := kept.each s listed
    obtain ⟨owner, above, declared, heading⟩ := scope.declared isScopeOfClass
    exact ⟨owner, above, scope.scopedIn inside stands read header declared heading named file⟩

end Outline.Python

end CodeAtlas
