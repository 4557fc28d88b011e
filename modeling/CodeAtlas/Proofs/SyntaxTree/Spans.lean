import CodeAtlas.Extraction
import CodeAtlas.Proofs.Item.Attributes
import CodeAtlas.Proofs.SyntaxTree.Sites
import Mathlib.Tactic.SplitIfs

/-!
What a declaration found in a tree takes of the source. It takes one node as a whole: the one it is
declared at, or an ancestor to which the rules of its language widen it.
-/
namespace CodeAtlas

def Node.extent (source : Line) (n : Node) : Extent :=
  ⟨n.startRow source + 1, n.stopRow source + 1, n.string source⟩

@[simp]
theorem SyntaxTree.extent_construct (source : Line) (kind : ItemKind) (name : String) (n : Node) :
    (construct source kind name n).extent = n.extent source := rfl

inductive Site.WidensTo (widens : Node → Node → Prop) : Site → Site → Prop where
  | stay {site : Site} (alone : ∀ p, site.parent? = some p → ¬ widens site.node p.node) :
      WidensTo widens site site
  | climb {site p outer : Site} (up : site.parent? = some p) (wider : widens site.node p.node)
      (rest : WidensTo widens p outer) : WidensTo widens site outer

/-- Whether a declaration at a node takes the parent as a whole: a type alone in its declaration, a
decorated definition, an arrow function that is the value of a variable or a field, a variable alone
in its statement. -/
def Language.Widens : Language → Node → Node → Prop
  | go, node, parent =>
    (node.kind = "type_spec" ∨ node.kind = "type_alias") ∧ parent.kind = "type_declaration" ∧
      (parent.namedChildren.filter SyntaxTree.Go.isTypeSpec).length = 1
  | java, _, _ => False
  | python, node, parent =>
    (node.kind = "function_definition" ∨ node.kind = "class_definition") ∧
      parent.kind = "decorated_definition"
  | typeScript, node, parent | javaScript, node, parent =>
    node.kind = "arrow_function" ∧
        (parent.kind = "variable_declarator" ∨ parent.kind = "public_field_definition") ∨
      node.kind = "variable_declarator" ∧
        (parent.kind = "lexical_declaration" ∨ parent.kind = "variable_declaration") ∧
        parent.namedChildren.length = 1

namespace Site

variable {widens : Node → Node → Prop} {site outer : Site}

theorem mem_of_widensTo {root : Node} (wide : site.WidensTo widens outer)
    (member : site ∈ root.allSites) : outer ∈ root.allSites := by
  induction wide with
  | stay _ => exact member
  | climb up _ _ ih => exact ih (mem_allSites_of_parent member up)

theorem widensTo_getD {takes : Site → Bool}
    (rule : ∀ p, site.parent? = some p → (takes p = true ↔ widens site.node p.node))
    (highest : ∀ p, takes p = true → ∀ above, ¬ widens p.node above) :
    site.WidensTo widens ((site.parent?.filter takes).getD site) := by
  cases up : site.parent? with
  | none => exact .stay fun p above => by rw [up] at above; cases above
  | some p =>
    rw [Option.filter_some]
    split
    · rename_i passes
      exact .climb up ((rule p up).mp passes) (.stay fun q _ => highest p passes q.node)
    · rename_i fails
      refine .stay fun q above wider => ?_
      rw [up] at above
      cases above
      exact fails ((rule p up).mpr wider)

end Site

def Language.Spans (language : Language) (source : Line) (site : Site) (c : Construct) : Prop :=
  ∃ outer, site.WidensTo language.Widens outer ∧ c.extent = outer.node.extent source

namespace SyntaxTree

variable {source : Line} {site : Site} {c : Construct}

namespace Go

theorem widensTo_typeSite (spec : isTypeSpec site.node = true) :
    site.WidensTo Language.go.Widens (typeSite site) := by
  unfold typeSite Site.parentOfKind?
  rw [Option.filter_filter]
  refine Site.widensTo_getD (fun p _ => ?_) fun p passes above wider => ?_
  · simp_all [Language.Widens, isTypeSpec]
  · simp_all [Language.Widens]

theorem type_extent (name : String) (type : Node) :
    (Go.type source site name type).extent = (typeSite site).node.extent source := by
  unfold Go.type
  dsimp only
  split <;> simp

theorem spans (found : construct? source site = some c) : Language.go.Spans source site c := by
  unfold construct? at found
  split at found
  · cases found
  rename_i name _
  split_ifs at found with isFunction isMethod isType
  · cases found
    exact ⟨site, .stay fun p _ wider => by simp_all [Language.Widens], by simp [function]⟩
  · cases found
    exact ⟨site, .stay fun p _ wider => by simp_all [Language.Widens], by simp [method]⟩
  · obtain ⟨type, -, rfl⟩ := Option.map_eq_some_iff.mp found
    exact ⟨_, widensTo_typeSite isType, type_extent name type⟩

end Go

namespace Java

theorem member_extent (n : Node) : (member source n c).extent = c.extent := by
  simp [member]

theorem type_extent (n : Node) : (Java.type source n c).extent = c.extent := by
  unfold Java.type
  dsimp only
  split <;> simp

theorem declaration_extent (kind : ItemKind) (name : String) :
    (declaration source site kind name).extent = site.node.extent source := by
  simp [declaration]

theorem spans (found : construct? source site = some c) : Language.java.Spans source site c := by
  refine ⟨site, .stay fun _ _ => id, ?_⟩
  unfold construct? at found
  split at found
  · dsimp only at found
    split_ifs at found <;> cases found
    · rw [member_extent, declaration_extent]
    · rw [type_extent, declaration_extent]
  · cases found

end Java

namespace Python

theorem bare_extent {outer : Site} {enclosing : Option Node} {name : String}
    (found : bare? source site outer enclosing name = some c) :
    (site.node.kind = "function_definition" ∨ site.node.kind = "class_definition") ∧
      c.extent = outer.node.extent source := by
  unfold bare? at found
  split_ifs at found with isFunction isClass
  · cases found
    exact ⟨.inl (by simpa using isFunction), by simp [function]⟩
  · cases found
    exact ⟨.inr (by simpa using isClass), by simp [classConstruct]⟩

theorem widensTo_decorated
    (definition : site.node.kind = "function_definition" ∨ site.node.kind = "class_definition") :
    site.WidensTo Language.python.Widens
      ((site.parentOfKind? ["decorated_definition"]).getD site) := by
  refine Site.widensTo_getD (fun p _ => ?_) fun p passes above wider => ?_
  · simp_all [Language.Widens]
  · simp_all [Language.Widens]

theorem spans (found : construct? source site = some c) : Language.python.Spans source site c := by
  unfold construct? at found
  split at found
  · cases found
  obtain ⟨bare, made, rfl⟩ := Option.map_eq_some_iff.mp found
  obtain ⟨definition, taken⟩ := bare_extent made
  exact ⟨_, widensTo_decorated definition, by simpa using taken⟩

end Python

namespace TypeScript

@[simp]
theorem signature_extent (n : Node) : (signature source n c).extent = c.extent := by
  simp [signature]

@[simp]
theorem exported_extent : (exported source site c).extent = c.extent := by
  simp [exported]

theorem widens_kind {node parent : Node} (wider : Language.typeScript.Widens node parent) :
    node.kind = "arrow_function" ∨ node.kind = "variable_declarator" :=
  wider.imp And.left And.left

theorem widensTo_declaratorSite (declarator : site.node.kind = "variable_declarator") :
    site.WidensTo Language.typeScript.Widens (declaratorSite site) := by
  unfold declaratorSite Site.parentOfKind?
  rw [Option.filter_filter]
  refine Site.widensTo_getD (fun p _ => ?_) fun p passes above wider => ?_
  · simp_all [Language.Widens]
  · simp only [List.contains_cons, List.contains_nil, Bool.or_false, Bool.and_eq_true,
      Bool.or_eq_true, beq_iff_eq, decide_eq_true_eq] at passes
    rcases widens_kind wider with same | same <;> rw [same] at passes <;> simp at passes

theorem arrow_spans (isArrow : site.node.kind = "arrow_function")
    (found : arrow? source site = some c) : Language.typeScript.Spans source site c := by
  unfold arrow? at found
  split at found
  · cases found
  rename_i parent up
  split at found
  · cases found
  dsimp only at found
  split_ifs at found with isVariable isField
  · cases found
    rw [beq_iff_eq] at isVariable
    exact ⟨_, .climb up (.inl ⟨isArrow, .inl isVariable⟩) (widensTo_declaratorSite isVariable),
      by simp [arrowVariable]⟩
  · cases found
    rw [beq_iff_eq] at isField
    exact ⟨_, .climb up (.inl ⟨isArrow, .inr isField⟩)
      (.stay fun p _ wider => by simp_all [Language.Widens]), by simp [arrowField]⟩

theorem maker_extent {kind name : String} {make : Line → Site → String → Construct}
    (maker : makerOf? kind = some make) :
    (make source site name).extent = site.node.extent source := by
  unfold makerOf? at maker
  split at maker <;> cases maker
  all_goals simp [function, method, classConstruct, interface, typeAlias]

theorem spans (found : construct? source site = some c) :
    Language.typeScript.Spans source site c := by
  unfold construct? at found
  split_ifs at found with isArrow
  · exact arrow_spans (by simpa using isArrow) found
  · split at found
    · cases found
      rename_i make name maker _
      refine ⟨site, .stay fun p _ wider => ?_, maker_extent maker⟩
      rcases widens_kind wider with same | same <;> rw [same] at maker <;> cases maker
    · cases found

end TypeScript
end SyntaxTree

theorem Language.spans (language : Language) {source : Line} {site : Site} {c : Construct}
    (found : language.construct? source site = some c) : language.Spans source site c := by
  cases language with
  | go => exact SyntaxTree.Go.spans found
  | java => exact SyntaxTree.Java.spans found
  | python => exact SyntaxTree.Python.spans found
  | typeScript | javaScript => exact SyntaxTree.TypeScript.spans found

end CodeAtlas
