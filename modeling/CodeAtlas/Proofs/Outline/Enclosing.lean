import CodeAtlas.Proofs.Outline.Nesting
import CodeAtlas.Proofs.Outline.Order

/-!
Members and the types they lie in. A scan keeps the types that are open; each was declared further
up, and ends where its braces balance. So a declaration that names its type comes after that type and
begins inside it, and a method ends inside it too if it opens a brace there.
-/
namespace CodeAtlas

def Language.isMark : Language → Line → Bool
  | java => Outline.Java.isAnnotation
  | python => fun line => line.head? == some '@'
  | go | typeScript | javaScript => fun _ => false

/-- Index of the line an item's header stands on, below its annotations or decorators. -/
def Language.headerLine (language : Language) (lines : List Line) (item : Item) : Nat :=
  let first := item.startLine - 1
  first + ((lines.drop first).takeWhile fun line => language.isMark (Text.trim line)).length

/-- The item names another one, a type, as what it is declared in, and begins inside it. A method
with a brace inside its type, on its header's line or further down, ends there too, unless the file
has more brackets than the counters hold. -/
structure Item.MemberOf (lines : List Line) (header : Nat) (item owner : Item) : Prop where
  className : item.metadata.get? "className" = some (.string owner.name)
  isType : owner.kind.isType = true
  below : owner.startLine < item.startLine
  within : item.startLine ≤ owner.endLine
  closed : Outline.FewBrackets lines.flatten → item.kind = .method ∨ item.kind = .constructor →
    (∃ j line, header ≤ j ∧ j < owner.endLine ∧ lines[j]? = some line ∧
      Outline.opensBrace line = true) →
    item.endLine ≤ owner.endLine

theorem ItemKind.no_member_of_isType {kind : ItemKind} (isType : kind.isType = true) :
    ¬ (kind = .method ∨ kind = .constructor) := by
  rintro (rfl | rfl) <;> cases isType

namespace Outline

/-- What holds of the declarations above a line and of the state there is kept by every line, and
gives what a declaration on that line owes to those above. -/
theorem scan_follows {σ : Type} {step : σ → Nat → Line → Option Construct × σ} {lines : List Line}
    {Kept : List Construct → Nat → σ → Prop} {Follows : List Construct → Construct → Prop}
    (each : ∀ done i state line, lines[i]? = some line → Kept done i state →
      Kept (done ++ (step state i line).1.toList) (i + 1) (step state i line).2 ∧
        ∀ c, (step state i line).1 = some c → Follows done c)
    {state : σ} (start : Kept [] 0 state) {front back : List Construct} {c : Construct}
    (found : scan step state 0 lines = front ++ c :: back) : Follows front c := by
  -- Along the scan: the declarations so far stand before those that are still to come.
  have from_any : ∀ (rest : List Line) (i : Nat) (state : σ) (done front : List Construct),
      lines.drop i = rest → Kept done i state → scan step state i rest = front ++ c :: back →
      Follows (done ++ front) c := by
    intro rest
    induction rest with
    | nil =>
      intro i state done front _ _ found
      exact absurd found.symm (List.append_ne_nil_of_right_ne_nil _ (List.cons_ne_nil _ _))
    | cons line rest ih =>
      intro i state done front here kept found
      obtain ⟨stands, below⟩ := stands_of_drop here
      obtain ⟨keeps, follows⟩ := each done i state line stands kept
      unfold scan at found
      split at found
      · rename_i next stepped
        rw [stepped, Option.toList_none, List.append_nil] at keeps
        exact ih (i + 1) next done front below keeps found
      · rename_i first next stepped
        rw [stepped] at keeps follows
        cases front with
        | nil =>
          cases found
          rw [List.append_nil]
          exact follows c rfl
        | cons other front =>
          obtain ⟨rfl, others⟩ := List.cons_eq_cons.mp found
          have later := ih (i + 1) next (done ++ [first]) front below keeps others
          rwa [List.append_assoc] at later
  exact from_any lines 0 state [] front rfl start found

theorem runAbove_takeWhile {lines : List Line} {p : Line → Bool} {i : Nat} {line : Line}
    (stands : lines[i]? = some line) (plain : p (Text.trim line) = false) :
    runAbove lines i p + ((lines.drop (runAbove lines i p)).takeWhile
      fun l => p (Text.trim l)).length = i := by
  obtain ⟨inside, rfl⟩ := List.getElem?_eq_some_iff.mp stands
  let run := (lines.take i).reverse.takeWhile fun l => p (Text.trim l)
  let kept := (lines.take i).reverse.dropWhile fun l => p (Text.trim l)
  have above : lines.take i = kept.reverse ++ run.reverse := by
    rw [← List.reverse_append, List.takeWhile_append_dropWhile, List.reverse_reverse]
  have length : i = kept.length + run.length := by
    have sides := congrArg List.length above
    rwa [List.length_take_of_le (Nat.le_of_lt inside), List.length_append, List.length_reverse,
      List.length_reverse] at sides
  have first : runAbove lines i p = kept.reverse.length := by
    have last : runAbove lines i p = i - run.length := rfl
    rw [last, List.length_reverse]
    omega
  have below : lines.drop kept.reverse.length = run.reverse ++ lines[i] :: lines.drop (i + 1) := by
    have parted := List.take_append_drop i lines
    rw [above, List.append_assoc, List.drop_eq_getElem_cons inside] at parted
    calc lines.drop kept.reverse.length
      _ = (kept.reverse ++ (run.reverse ++ lines[i] :: lines.drop (i + 1))).drop
          kept.reverse.length := congrArg _ parted.symm
      _ = run.reverse ++ lines[i] :: lines.drop (i + 1) := List.drop_left
  have marks : ∀ l ∈ run.reverse, p (Text.trim l) = true := by
    intro l member
    exact List.all_eq_true.mp List.all_takeWhile l (List.mem_reverse.mp member)
  rw [first, below, List.takeWhile_append_of_pos marks, List.takeWhile_cons_of_neg (by simp [plain]),
    List.append_nil, List.length_reverse, List.length_reverse, ← length]

theorem runAbove_none (lines : List Line) (i : Nat) : runAbove lines i (fun _ => false) = i := by
  unfold runAbove
  cases (lines.take i).reverse <;> rfl

/-! Types with braces -/

def blockExtent (lines : List Line) (first i : Nat) : Extent :=
  (construct .type [] lines first (braceBlockEnd lines i)).extent

structure DeclaredIn (mark : Line → Bool) (lines : List Line) (i : Nat) (types : List OpenType)
    (c : Construct) : Prop where
  header : EndsRun lines mark i
  extent : c.extent = blockExtent lines (runAbove lines i mark) i
  className : ∀ value, c.attribute? "className" = some value →
    ∃ t ∈ types.head?, value = .string (String.ofList t.name) ∧
      (c.kind = .method ∨ c.kind = .constructor → t.bodyDepth = depthAt lines i)

structure Opens (lines : List Line) (i : Nat) (c : Construct) (t : OpenType) : Prop where
  isType : c.kind.isType = true
  name : c.name = String.ofList t.name
  bodyDepth : t.bodyDepth = depthAt lines i + 1
  last : t.last = braceBlockEnd lines i

structure ReadsTypes (mark : Line → Bool) (lines : List Line)
    (step : List OpenType → Nat → Line → Option Construct × List OpenType) : Prop where
  declares : ∀ types i line c, lines[i]? = some line → (step types i line).1 = some c →
    DeclaredIn mark lines i (stillOpen i types) c
  opens : ∀ types i line, (step types i line).2 = stillOpen i types ∨
    ∃ c t, step types i line = (some c, t :: stillOpen i types) ∧ Opens lines i c t

def OpenedAbove (mark : Line → Bool) (lines : List Line) (done : List Construct) (i : Nat)
    (t : OpenType) : Prop :=
  ∃ p types, ∃ owner ∈ done, p < i ∧ DeclaredIn mark lines p types owner ∧ Opens lines p owner t

section Types

variable {mark : Line → Bool} {lines : List Line} {done : List Construct} {i : Nat} {t : OpenType}

theorem DeclaredIn.first {types : List OpenType} {c : Construct}
    (declared : DeclaredIn mark lines i types c) : c.startLine = runAbove lines i mark + 1 :=
  congrArg Extent.startLine declared.extent

theorem DeclaredIn.last {types : List OpenType} {c : Construct}
    (declared : DeclaredIn mark lines i types c) : c.endLine = braceBlockEnd lines i + 1 :=
  congrArg Extent.endLine declared.extent

theorem OpenedAbove.later (opened : OpenedAbove mark lines done i t) (found : List Construct) :
    OpenedAbove mark lines (done ++ found) (i + 1) t := by
  obtain ⟨p, types, owner, listed, above, declared, opens⟩ := opened
  exact ⟨p, types, owner, List.mem_append_left found listed, Nat.lt_succ_of_lt above, declared, opens⟩

theorem mem_of_stillOpen {types : List OpenType} (member : t ∈ stillOpen i types) : t ∈ types :=
  (List.dropWhile_suffix _).subset member

theorem reaches_of_stillOpen {types : List OpenType} (innermost : (stillOpen i types).head? = some t) :
    i ≤ t.last := by
  have open_yet := List.head?_dropWhile_not (fun t : OpenType => decide (t.last < i)) types
  unfold stillOpen at innermost
  rw [innermost] at open_yet
  simpa using open_yet

theorem DeclaredIn.memberOf {types : List OpenType} {c : Construct} {line : Line} {value : Json}
    (declared : DeclaredIn mark lines i (stillOpen i types) c) (stands : lines[i]? = some line)
    (opened : ∀ t ∈ types, OpenedAbove mark lines done i t)
    (named : c.attribute? "className" = some value) (file : SourceFile) :
    ∃ owner ∈ done, (file.item c).MemberOf lines i (file.item owner) := by
  obtain ⟨t, innermost, rfl, body⟩ := declared.className value named
  have reached := reaches_of_stillOpen innermost
  obtain ⟨p, outer, owner, listed, above, ownerDeclared, opens⟩ :=
    opened t (mem_of_stillOpen (List.mem_of_mem_head? innermost))
  have inside := (List.getElem?_eq_some_iff.mp stands).1
  have apart : p < runAbove lines i mark := lt_runAbove above inside ownerDeclared.header
  refine ⟨owner, listed, ?_⟩
  constructor
  · rw [SourceFile.item_attribute _ _ (by decide), named]
    exact congrArg (some ∘ Json.string) opens.name.symm
  · exact opens.isType
  · rw [SourceFile.item_startLine, SourceFile.item_startLine, declared.first, ownerDeclared.first]
    have first := runAbove_le lines p mark
    omega
  · rw [SourceFile.item_startLine, SourceFile.item_endLine, declared.first, ownerDeclared.last,
      ← opens.last]
    have first := runAbove_le lines i mark
    omega
  · intro few method braces
    rw [SourceFile.item_endLine, ownerDeclared.last] at braces
    rw [SourceFile.item_endLine, SourceFile.item_endLine, declared.last, ownerDeclared.last]
    obtain ⟨j, brace, after, among, found, opening⟩ := braces
    have deeper : depthAt lines p < depthAt lines i := by
      rw [← body method, opens.bodyDepth, Int32.lt_iff_toInt_lt,
        toInt_depthAt_succ few (Nat.lt_trans above inside)]
      omega
    apply Nat.succ_le_succ
    apply braceBlockEnd_inside few above (opens.last ▸ reached) inside deeper
    exact ⟨j, brace, after, Nat.le_of_lt_succ among, found, opening⟩

theorem ReadsTypes.memberOf {step : List OpenType → Nat → Line → Option Construct × List OpenType}
    (reads : ReadsTypes mark lines step) {front back : List Construct} {c : Construct}
    (found : scan step [] 0 lines = front ++ c :: back) {value : Json}
    (named : c.attribute? "className" = some value) (file : SourceFile) :
    ∃ i line, lines[i]? = some line ∧ mark (Text.trim line) = false ∧
      c.startLine = runAbove lines i mark + 1 ∧
      ∃ owner ∈ front, (file.item c).MemberOf lines i (file.item owner) := by
  let Kept (done : List Construct) (i : Nat) (types : List OpenType) : Prop :=
    ∀ t ∈ types, OpenedAbove mark lines done i t
  let Follows (done : List Construct) (c : Construct) : Prop :=
    ∀ value, c.attribute? "className" = some value →
      ∃ i line, lines[i]? = some line ∧ mark (Text.trim line) = false ∧
        c.startLine = runAbove lines i mark + 1 ∧
        ∃ owner ∈ done, (file.item c).MemberOf lines i (file.item owner)
  have each : ∀ done i types line, lines[i]? = some line → Kept done i types →
      Kept (done ++ (step types i line).1.toList) (i + 1) (step types i line).2 ∧
        ∀ c, (step types i line).1 = some c → Follows done c := by
    intro done i types line stands kept
    constructor
    · intro t member
      rcases reads.opens types i line with same | ⟨c, opened, stepped, opens⟩
      · rw [same] at member
        exact (kept t (mem_of_stillOpen member)).later _
      · rw [stepped] at member ⊢
        rcases List.mem_cons.mp member with rfl | member
        · have declared := reads.declares types i line c stands (congrArg Prod.fst stepped)
          exact ⟨i, _, c, List.mem_append_right _ List.mem_cons_self, Nat.lt_succ_self i, declared,
            opens⟩
        · exact (kept t (mem_of_stillOpen member)).later _
    · intro c found value named
      have declared := reads.declares types i line c stands found
      exact ⟨i, line, stands, declared.header line stands, declared.first,
        declared.memberOf stands kept named file⟩
  have start : Kept [] 0 [] := fun t member => nomatch member
  exact scan_follows each start found value named

end Types

@[simp]
theorem heading_construct (kind : ItemKind) (name : Line) (lines : List Line) (first last : Nat) :
    (construct kind name lines first last).heading = (kind, String.ofList name) := rfl

@[simp]
theorem attribute_construct (kind : ItemKind) (name : Line) (lines : List Line) (first last : Nat)
    (key : String) : (construct kind name lines first last).attribute? key = none := rfl

namespace Java

variable {lines : List Line} {i : Nat}

theorem headed_className (kind : ItemKind) (groups : Pattern.Groups) :
    (headed kind lines i groups).attribute? "className" = none := by
  simp [headed]

theorem headed_extent (kind : ItemKind) (groups : Pattern.Groups) :
    (headed kind lines i groups).extent = blockExtent lines (runAbove lines i isAnnotation) i := by
  simp [headed]
  rfl

theorem type_extent (types : List OpenType) (groups : Pattern.Groups) :
    (type lines i types groups).extent = blockExtent lines (runAbove lines i isAnnotation) i := by
  unfold type
  dsimp only
  split <;> simp [headed_extent]

theorem type_heading (types : List OpenType) (groups : Pattern.Groups) :
    (type lines i types groups).heading =
      (typeKind (groups.get "keyword"), String.ofList (groups.get "name")) := by
  unfold type
  dsimp only
  split <;> simp [headed]

theorem type_className (types : List OpenType) (groups : Pattern.Groups) :
    (type lines i types groups).attribute? "className" =
      (types.head?.map fun t => String.ofList t.name).map Json.string := by
  unfold type
  dsimp only
  split <;> simp [headed_className, Construct.attribute_setOption_self]

theorem type_isType (types : List OpenType) (groups : Pattern.Groups) :
    (type lines i types groups).kind.isType = true := by
  have kind : (type lines i types groups).kind = typeKind (groups.get "keyword") :=
    congrArg Prod.fst (type_heading types groups)
  rw [kind, typeKind]
  repeat' split
  all_goals rfl

theorem member_extent (enclosing : OpenType) (kind : ItemKind) (groups : Pattern.Groups) :
    (member lines i enclosing kind groups).extent =
      blockExtent lines (runAbove lines i isAnnotation) i := by
  simp [member, headed_extent]

theorem member_className (enclosing : OpenType) (kind : ItemKind) (groups : Pattern.Groups) :
    (member lines i enclosing kind groups).attribute? "className" =
      some (.string (String.ofList enclosing.name)) := by
  simp [member]

theorem readsTypes (lines : List Line) :
    ReadsTypes isAnnotation lines (step lines (depthProfile lines)) where
  declares := by
    intro types i line c stands found
    obtain ⟨plain, made⟩ := step_cases found
    have header : EndsRun lines isAnnotation i := by
      intro other same
      cases stands.symm.trans same
      exact plain
    rcases made with ⟨groups, -, rfl⟩ | ⟨enclosing, outer, kind, groups, -, opened, body, -, rfl⟩
    · refine ⟨header, type_extent _ groups, ?_⟩
      · intro value named
        rw [type_className, Option.map_map] at named
        obtain ⟨t, innermost, rfl⟩ := Option.map_eq_some_iff.mp named
        refine ⟨t, innermost, rfl, fun method => ?_⟩
        exact absurd method (ItemKind.no_member_of_isType (type_isType _ groups))
    · refine ⟨header, member_extent enclosing kind groups, ?_⟩
      · intro value named
        rw [member_className] at named
        cases named
        exact ⟨enclosing, by rw [opened, List.head?_cons]; rfl, rfl, fun _ => body.symm⟩
  opens := by
    intro types i line
    rcases step_types lines (depthProfile lines) types i line with same | ⟨groups, stepped⟩
    · exact .inl same
    · refine .inr ⟨_, _, stepped, type_isType _ groups, ?_, rfl, rfl⟩
      exact congrArg Prod.snd (type_heading _ groups)

end Java

namespace TypeScript

variable {lines : List Line} {i : Nat} {line : Line} {c : Construct}

theorem headed_extent (kind : ItemKind) (groups : Pattern.Groups) :
    (headed kind lines i groups).extent = blockExtent lines i i := rfl

theorem exported_extent (groups : Pattern.Groups) (found : Construct) :
    (exported lines i groups found).extent = found.extent := by
  simp [exported]

theorem exported_heading (groups : Pattern.Groups) (found : Construct) :
    (exported lines i groups found).heading = found.heading := by
  simp [exported]

theorem exported_className (groups : Pattern.Groups) (found : Construct) :
    (exported lines i groups found).attribute? "className" = found.attribute? "className" := by
  simp [exported]

theorem class_heading (types : List OpenType) (groups : Pattern.Groups) :
    (classConstruct lines i types groups).heading =
      (.class, String.ofList (groups.get "name")) := by
  simp [classConstruct, headed]

theorem class_className (types : List OpenType) (groups : Pattern.Groups) :
    (classConstruct lines i types groups).attribute? "className" =
      (types.head?.map fun t => String.ofList t.name).map Json.string := by
  simp [classConstruct, headed, Construct.attribute_setOption_self]

theorem class_extent (types : List OpenType) (groups : Pattern.Groups) :
    (classConstruct lines i types groups).extent = blockExtent lines i i := by
  simp [classConstruct, headed_extent]

theorem exported_class_isType (types : List OpenType) (groups : Pattern.Groups) :
    (exported lines i groups (classConstruct lines i types groups)).kind.isType = true := by
  have kind : (exported lines i groups (classConstruct lines i types groups)).kind = .class :=
    congrArg Prod.fst ((exported_heading groups _).trans (class_heading types groups))
  rw [kind]
  rfl

theorem other_className (found : other? lines i line = some c) :
    c.attribute? "className" = none := by
  obtain ⟨make, among, groups, rfl⟩ := other_cases found
  rw [exported_className]
  simp only [otherHeaders, List.map_cons, List.map_nil, List.mem_cons, List.not_mem_nil,
    or_false] at among
  rcases among with rfl | rfl | rfl | rfl
  · simp [functionConstruct, headed]
  · simp [interfaceConstruct, headed]
  · simp [typeConstruct, headed]
  · simp [arrowConstruct, headed]

theorem member_className {className : Line} (found : member? lines i line className = some c) :
    c.attribute? "className" = some (.string (String.ofList className)) := by
  obtain ⟨groups, ⟨-, rfl⟩ | ⟨-, -, rfl⟩⟩ := member_cases found
  · simp [arrowField]
  · simp [method]

theorem other_extent (found : other? lines i line = some c) : c.extent = blockExtent lines i i := by
  obtain ⟨make, among, groups, rfl⟩ := other_cases found
  rw [exported_extent]
  simp only [otherHeaders, List.map_cons, List.map_nil, List.mem_cons, List.not_mem_nil,
    or_false] at among
  rcases among with rfl | rfl | rfl | rfl
  · simp [functionConstruct, headed_extent]
  · simp [interfaceConstruct, headed_extent]
  · simp [typeConstruct, headed_extent]
  · simp [arrowConstruct, headed_extent]

theorem member_extent {className : Line} (found : member? lines i line className = some c) :
    c.extent = blockExtent lines i i := by
  obtain ⟨groups, ⟨-, rfl⟩ | ⟨-, -, rfl⟩⟩ := member_cases found
  · simp [arrowField, headed_extent]
  · simp [method, headed_extent]

theorem readsTypes (lines : List Line) :
    ReadsTypes (fun _ => false) lines (step lines (depthProfile lines)) where
  declares := by
    intro types i line c _ found
    refine ⟨fun _ _ => rfl, ?_, ?_⟩
    · rw [runAbove_none]
      rcases step_cases found with ⟨t, -, -, declared⟩ | ⟨groups, -, rfl⟩ | declared
      · exact member_extent declared
      · rw [exported_extent, class_extent]
      · exact other_extent declared
    · intro value named
      rcases step_cases found with ⟨t, innermost, body, declared⟩ | ⟨groups, -, rfl⟩ | declared
      · rw [member_className declared] at named
        cases named
        exact ⟨t, innermost, rfl, fun _ => body⟩
      · rw [exported_className, class_className, Option.map_map] at named
        obtain ⟨t, innermost, rfl⟩ := Option.map_eq_some_iff.mp named
        refine ⟨t, innermost, rfl, fun method => ?_⟩
        exact absurd method (ItemKind.no_member_of_isType (exported_class_isType _ groups))
      · rw [other_className declared] at named
        cases named
  opens := by
    intro types i line
    rcases step_types lines (depthProfile lines) types i line with same | ⟨groups, stepped⟩
    · exact .inl same
    · refine .inr ⟨_, _, stepped, exported_class_isType _ groups, ?_, rfl, rfl⟩
      exact congrArg Prod.snd ((exported_heading groups _).trans (class_heading _ groups))

end TypeScript
end Outline

theorem Language.headerLine_item (language : Language) (file : SourceFile) {lines : List Line}
    {c : Construct} {i : Nat} {line : Line} (stands : lines[i]? = some line)
    (plain : language.isMark (Text.trim line) = false)
    (first : c.startLine = Outline.runAbove lines i language.isMark + 1) :
    language.headerLine lines (file.item c) = i := by
  rw [headerLine, SourceFile.item_startLine, first, Nat.add_sub_cancel]
  exact Outline.runAbove_takeWhile stands plain

theorem Language.item_of_outline {language : Language} {path : String} {source : Line}
    {extractedAt : Timestamp} {front back : List Item} {item : Item}
    (found : extractItems language path source none extractedAt = front ++ item :: back) :
    ∃ (file : SourceFile) (above : List Construct) (c : Construct) (below : List Construct),
      language.outline source = above ++ c :: below ∧ front = above.map file.item ∧
        item = file.item c := by
  let file := SourceFile.ofPath path ((Language.ofPath? (Path.ofString path)).getD language)
    extractedAt
  have made : (language.outline source).map file.item = front ++ item :: back := found
  obtain ⟨above, rest, parted, before, others⟩ := List.map_eq_append_iff.mp made
  obtain ⟨c, below, rfl, same, -⟩ := List.map_eq_cons_iff.mp others
  exact ⟨file, above, c, below, parted, before.symm, same.symm⟩

theorem Language.reads_types {language : Language}
    (braces : language = .java ∨ language.isScript = true) (source : Line) :
    ∃ step, language.outline source = Outline.scan step [] 0 (Text.lines source) ∧
      Outline.ReadsTypes language.isMark (Text.lines source) step := by
  cases language with
  | java => exact ⟨_, rfl, Outline.Java.readsTypes _⟩
  | typeScript | javaScript => exact ⟨_, rfl, Outline.TypeScript.readsTypes _⟩
  | go | python => rcases braces with same | same <;> cases same

theorem eq_pair_of_map {α β : Type} {f : α → β} {l : List α} {a b : β} (shown : l.map f = [a, b]) :
    ∃ x y, l = [x, y] ∧ f x = a ∧ f y = b := by
  obtain ⟨x, rest, rfl, first, others⟩ := List.map_eq_cons_iff.mp shown
  obtain ⟨y, last, rfl, second, none_below⟩ := List.map_eq_cons_iff.mp others
  cases List.map_eq_nil_iff.mp none_below
  exact ⟨x, y, rfl, first, second⟩

end CodeAtlas
