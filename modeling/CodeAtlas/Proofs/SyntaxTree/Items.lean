import CodeAtlas.Proofs.Item.Attributes
import CodeAtlas.Proofs.SyntaxTree.Ranges
import CodeAtlas.Proofs.SyntaxTree.Spans
import CodeAtlas.Proofs.SyntaxTree.Walk
import Mathlib.Data.List.Forall2

/-!
Items read off a tree that fits its source. The cursor visits each node once; each item takes one
node of the tree as a whole, with the lines and the length its octets give, and the nodes any two
items take are nested or apart, also where a declaration is widened to an ancestor.
-/
namespace CodeAtlas

structure Item.TakesNode (source : Line) (n : Node) (item : Item) : Prop where
  code : ∃ front back, source = front ++ item.code.toList ++ back ∧
    Text.octets front = n.start ∧ Text.octets (front ++ item.code.toList) = n.stop ∧
    item.startLine = 1 + front.count '\n'
  endLine : item.endLine = item.startLine + item.code.toList.count '\n'
  sourceLength : item.metadata.get? "sourceLength" = some (.ofNat (n.stop - n.start))

namespace Node

variable {source : Line} {n : Node}

theorem Fits.cut (fits : n.Fits source) :
    ∃ front middle back, source = front ++ middle ++ back ∧ Text.octets front = n.start ∧
      Text.octets (front ++ middle) = n.stop := by
  obtain ⟨aligned, -⟩ := fits
  exact aligned.first.between aligned.last aligned.ordered

theorem extent_of_cut {front middle back : Line} (aligned : n.Aligned source)
    (whole : source = front ++ middle ++ back) (start : Text.octets front = n.start)
    (stop : Text.octets (front ++ middle) = n.stop) :
    n.extent source =
      ⟨front.count '\n' + 1, (front ++ middle).count '\n' + 1, String.ofList middle⟩ := by
  rw [extent, startRow, stopRow, aligned.rows]
  subst whole
  rw [countedRows, string, text, ← start, ← stop, Text.slice_append, Text.rowAt_append,
    List.append_assoc, Text.rowAt_append]

end Node

theorem SourceFile.item_takesNode (file : SourceFile) {source : Line} {n : Node} {c : Construct}
    (fits : n.Fits source) (taken : c.extent = n.extent source) :
    (file.item c).TakesNode source n := by
  obtain ⟨front, middle, back, whole, start, stop⟩ := fits.cut
  obtain ⟨aligned, -⟩ := fits
  rw [Node.extent_of_cut aligned whole start stop] at taken
  obtain ⟨first, last, code⟩ := Extent.mk.inj taken
  have text : (file.item c).code.toList = middle := by
    rw [← String.toList_ofList (l := middle), ← code]
    rfl
  refine ⟨⟨front, back, ?_, start, ?_, ?_⟩, ?_, ?_⟩
  · rw [text]
    exact whole
  · rw [text]
    exact stop
  · rw [item_startLine, first, Nat.add_comm]
  · rw [item_startLine, item_endLine, first, last, text, List.count_append]
    omega
  · rw [← stop, ← start, Text.octets_append, Nat.add_sub_cancel_left,
      ← Text.utf8ByteSize_ofList, ← code]
    exact attributes_sourceLength file c

namespace Language

def declared? (language : Language) (source : Line) (site : Site) : Option Construct :=
  if site.node.isNamed && language.declarationKinds.contains site.node.kind then
    language.construct? source site
  else none

variable (language : Language) (source : Line)

theorem spans_of_declared {site : Site} {c : Construct}
    (found : language.declared? source site = some c) : language.Spans source site c := by
  unfold declared? at found
  split at found
  · exact language.spans found
  · cases found

theorem declared_span (sites : List Site) :
    ∃ spanned, List.Forall₂ (Site.WidensTo language.Widens)
        (sites.filter fun site => (language.declared? source site).isSome) spanned ∧
      List.Forall₂ (fun outer c => c.extent = outer.node.extent source) spanned
        (sites.filterMap (language.declared? source)) := by
  induction sites with
  | nil => exact ⟨[], .nil, .nil⟩
  | cons site rest ih =>
    obtain ⟨spanned, widened, taken⟩ := ih
    cases found : language.declared? source site with
    | none =>
      refine ⟨spanned, ?_, ?_⟩
      · rwa [List.filter_cons_of_neg (by simp [found])]
      · rwa [List.filterMap_cons_none found]
    | some c =>
      obtain ⟨outer, wide, same⟩ := language.spans_of_declared source found
      refine ⟨outer :: spanned, ?_, ?_⟩
      · rw [List.filter_cons_of_pos (by simp [found])]
        exact .cons wide widened
      · rw [List.filterMap_cons_some found]
        exact .cons same taken

end Language

theorem Site.widened_inside {widens : Node → Node → Prop} {root : Node} {sites spanned : List Site}
    (widened : List.Forall₂ (WidensTo widens) sites spanned)
    (inside : ∀ site ∈ sites, site ∈ root.allSites) : ∀ outer ∈ spanned, outer ∈ root.allSites := by
  induction widened with
  | nil => exact fun _ none => by cases none
  | cons wide _ ih =>
    intro outer among
    rcases List.mem_cons.mp among with rfl | later
    · exact mem_of_widensTo wide (inside _ (.head _))
    · exact ih (fun site member => inside site (.tail _ member)) outer later

/-- Whatever tree fits the source, the cursor visits each of its nodes once. The items follow the
visited sites that declare something, each takes the node its site widens to, and any two of these
nodes are nested or apart. -/
theorem tree_items_take_nested_nodes (language : Language) (path : String) (source : Line)
    (root : Node) (extractedAt : Timestamp) (fits : root.Fits source) :
    ∃ visited spanned : List Site, root.Toured visited ∧
      List.Forall₂ (Site.WidensTo language.Widens)
        (visited.filter fun site => (language.declared? source site).isSome) spanned ∧
      (∀ outer ∈ spanned, outer ∈ visited) ∧
      List.Forall₂ (fun outer item => item.TakesNode source outer.node) spanned
        (extractItems language path source (some root) extractedAt) ∧
      ∀ a ∈ spanned, ∀ b ∈ spanned, a.node.NestedOrApart b.node := by
  obtain ⟨spanned, widened, taken⟩ := language.declared_span source root.allSites
  have inside := Site.widened_inside widened fun site among => List.mem_of_mem_filter among
  refine ⟨root.allSites, spanned, toured_allSites root, widened, inside, ?_, ?_⟩
  · refine List.forall₂_map_right_iff.mpr ?_
    have each := (List.forall₂_and_left _ _).mpr ⟨inside, taken⟩
    exact each.imp fun outer c ⟨member, same⟩ =>
      SourceFile.item_takesNode _ (fits.of_mem_sites member) same
  · exact fun a first b second => fits.nestedOrApart (inside a first) (inside b second)

/-- A decorated function below a comment, whose text is `# é`, `@cache`, `def f():`, `    pass`. -/
def decoratedTree : Node :=
  .mk ⟨none, true, "module"⟩ 0 30 (some ⟨0, 4⟩)
    [.mk ⟨none, true, "comment"⟩ 0 4 (some ⟨0, 0⟩) [],
     .mk ⟨none, true, "decorated_definition"⟩ 5 29 (some ⟨1, 3⟩)
      [.mk ⟨none, true, "decorator"⟩ 5 11 (some ⟨1, 1⟩)
        [.mk ⟨none, false, "@"⟩ 5 6 (some ⟨1, 1⟩) [],
         .mk ⟨none, true, "identifier"⟩ 6 11 (some ⟨1, 1⟩) []],
       .mk ⟨some "definition", true, "function_definition"⟩ 12 29 (some ⟨2, 3⟩)
        [.mk ⟨none, false, "def"⟩ 12 15 (some ⟨2, 2⟩) [],
         .mk ⟨some "name", true, "identifier"⟩ 16 17 (some ⟨2, 2⟩) [],
         .mk ⟨some "parameters", true, "parameters"⟩ 17 19 (some ⟨2, 2⟩) [],
         .mk ⟨none, false, ":"⟩ 19 20 (some ⟨2, 2⟩) [],
         .mk ⟨some "body", true, "block"⟩ 25 29 (some ⟨3, 3⟩)
          [.mk ⟨none, true, "pass_statement"⟩ 25 29 (some ⟨3, 3⟩) []]]]]

theorem decorated_definition_takes_its_decorator :
    let source := "# é\n@cache\ndef f():\n    pass\n".toList
    decoratedTree.Fits source ∧ ∃ item path n,
      extractItems .python "src/memo.py" source (some decoratedTree) ⟨0, 0⟩ = [item] ∧
        decoratedTree.at? path = some n ∧ item.TakesNode source n ∧
        (item.startLine, item.endLine, item.code) = (2, 4, "@cache\ndef f():\n    pass") := by
  intro source
  have fits : decoratedTree.Fits source := by decide +kernel
  obtain ⟨visited, spanned, toured, -, inside, taken, -⟩ :=
    tree_items_take_nested_nodes .python "src/memo.py" source decoratedTree ⟨0, 0⟩ fits
  have places : (extractItems .python "src/memo.py" source (some decoratedTree) ⟨0, 0⟩).map
      (fun item => (item.startLine, item.endLine, item.code)) =
        [(2, 4, "@cache\ndef f():\n    pass")] := by decide +kernel
  obtain ⟨item, only, place⟩ := List.map_eq_singleton_iff.mp places
  rw [only] at taken
  obtain ⟨outer, _, takes, -, rfl⟩ := List.forall₂_cons_right_iff.mp taken
  have visit := inside outer (.head _)
  exact ⟨fits, item, outer.path, outer.node, only,
    (toured.everywhere _ _).mp ⟨outer, visit, rfl, rfl⟩, takes, place⟩

end CodeAtlas
