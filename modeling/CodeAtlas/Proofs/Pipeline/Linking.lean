import CodeAtlas.Pipeline.Standard
import CodeAtlas.Proofs.Pipeline.Layers
import CodeAtlas.Proofs.Symbols.Assembly

/-!
Linking items by the names in their code. What is found for an item depends on nothing that linking
adds, so all that is found leads to nodes of the graph, and linking once more changes nothing.
-/
namespace CodeAtlas

open List (Forall₂)

/-! Items linked by names -/

namespace Symbols

def linkAll (items : List Item) : List Item :=
  items.map fun item => { item with dependencies := dependencies (symbolsOf items) item }

theorem symbolsOf_linkAll (items : List Item) : symbolsOf (linkAll items) = symbolsOf items := by
  rw [symbolsOf, linkAll, List.map_map]
  rfl

theorem linkAll_linkAll (items : List Item) : linkAll (linkAll items) = linkAll items := by
  rw [linkAll, symbolsOf_linkAll, linkAll, List.map_map]
  rfl

theorem linkAll_links (items : List Item) : Forall₂ Item.Links items (linkAll items) := by
  rw [linkAll, List.forall₂_map_right_iff, List.forall₂_same]
  exact fun _ _ => ⟨_, rfl⟩

theorem dependency_of_linkAll {items : List Item} {item : Item} (member : item ∈ linkAll items)
    {d : Dependency} (depends : d ∈ item.dependencies) :
    ∃ other ∈ linkAll items, d.target = some other.id ∧ other.id ≠ item.id := by
  obtain ⟨bare, -, rfl⟩ := List.mem_map.mp member
  obtain ⟨-, ⟨other, first, target, apart, -⟩, -⟩ := resolved_iff.mp depends
  exact ⟨_, List.mem_map_of_mem (List.mem_of_find?_eq_some first), target, apart⟩

theorem link_of_linkAll {items : List Item} {e : Edge} (member : e ∈ linksOf (linkAll items)) :
    e.target ∈ (DependencyGraph.ofItems (linkAll items)).ids ∧ e.source ≠ e.target := by
  obtain ⟨item, inside, among⟩ := List.mem_flatMap.mp member
  obtain ⟨d, depends, leads⟩ := List.mem_filterMap.mp among
  obtain ⟨target, named, rfl⟩ := Option.map_eq_some_iff.mp leads
  obtain ⟨other, found, same, apart⟩ := dependency_of_linkAll inside depends
  obtain rfl : other.id = target := Option.some_inj.mp (same.symm.trans named)
  exact ⟨DependencyGraph.mem_ids.mpr ⟨other, found, rfl⟩, apart.symm⟩

end Symbols

/-- Where every link leads to a node there are as many edges as pairs of ids that are linked. -/
theorem DependencyGraph.length_edges_ofItems {items : List Item}
    (inside : ∀ link ∈ linksOf items, link.target ∈ (ofItems items).ids) :
    (ofItems items).edges.length = ((linksOf items).map Edge.ends).toFinset.card := by
  have distinct : ((edgesOf items).map Edge.ends).Nodup :=
    List.pairwise_map.mpr (edgesOf_apart items)
  have same : ((linksOf items).map Edge.ends).toFinset =
      ((edgesOf items).map Edge.ends).toFinset := by
    ext pair
    simp only [List.mem_toFinset, List.mem_map]
    constructor
    · rintro ⟨link, member, rfl⟩
      obtain ⟨first, found, same⟩ := Symbols.exists_find?
        (p := fun other : Edge => other.ends = link.ends) member (decide_eq_true rfl)
      have ends : first.ends = link.ends := of_decide_eq_true same
      have target : first.target = link.target := congrArg Prod.snd ends
      refine ⟨first, mem_edgesOf.mpr ⟨?_, ends ▸ found⟩, ends⟩
      rw [target]
      exact mem_ids.mp (inside link member)
    · rintro ⟨e, member, rfl⟩
      exact ⟨e, List.mem_of_find?_eq_some (mem_edgesOf.mp member).2, rfl⟩
  rw [same, List.toFinset_card_of_nodup distinct, List.length_map]
  rfl

/-! The stage -/

theorem inOrder_idle {State α β : Type} {work : α → State → β × State} {answer : α → β}
    {state : State} (idle : ∀ a, work a state = (answer a, state)) (as : List α) :
    inOrder work as state = (as.map answer, state) := by
  induction as with
  | nil => rfl
  | cons a rest ih => simp only [inOrder, idle, ih, List.map_cons]

structure LinkedItems.Settles (items : List Item) (output : LinkedItems) (linked : List Item) :
    Prop where
  held : output.items = some linked
  links : Forall₂ Item.Links items linked
  unfailing : output.stats.failures = 0
  resolved : ∀ item ∈ linked, ∀ d ∈ item.dependencies,
    ∃ target ∈ output.graph.ids, d.target = some target
  loopless : ∀ e ∈ output.graph.edges, e.source ≠ e.target
  edges : output.stats.edges = ((linksOf linked).map Edge.ends).toFinset.card

section Standard

variable {World : Type} (e : Enricher World) (v : Vectorizer World) (indexPath : Path)
  (wait : Nat → World → World)

theorem zipWith_link_found (items : List Item) :
    List.zipWith link items (items.map fun item =>
      some (Symbols.dependencies (Symbols.symbolsOf items) item)) = Symbols.linkAll items := by
  rw [List.zipWith_map_right, List.zipWith_self]
  rfl

theorem linkItems_standard (items : List Item) (state : RunState World) :
    ∃ output, (linkItems (.standard e v indexPath wait) items state).outcome = .ok output ∧
      output.items = some (Symbols.linkAll items) ∧
      output.graph = .ofItems (Symbols.linkAll items) ∧
      output.stats =
        { items := items.length
          itemsWithDependencies :=
            ((Symbols.linkAll items).filter fun item => !item.dependencies.isEmpty).length
          edges := (DependencyGraph.ofItems (Symbols.linkAll items)).edges.length
          failures := 0 } := by
  let s := Services.standard e v indexPath wait
  have idle : ∀ item, s.dependenciesOf items item (s.prepare items state) =
      (some (Symbols.dependencies (Symbols.symbolsOf items) item), s.prepare items state) :=
    fun _ => rfl
  have none_missing : ((items.map fun item =>
      some (Symbols.dependencies (Symbols.symbolsOf items) item)).filter Option.isNone) = [] := by
    simp
  simp only [linkItems]
  rw [inOrder_idle idle items]
  simp only [zipWith_link_found, none_missing]
  exact ⟨_, rfl, rfl, rfl, rfl⟩

/-- Linking by names, whatever was prepared before: the items stay as they are but for what they
depend on, nothing fails, all that is found leads to another node, each linked pair of ids counts as
one edge, and linking the result once more gives the same. -/
theorem linking_settles (items : List Item) (state : RunState World) :
    let run := linkItems (.standard e v indexPath wait)
    ∃ output linked, (run items state).outcome = .ok output ∧ output.Settles items linked ∧
      ∀ later, ∃ again, (run linked later).outcome = .ok again ∧
        again.items = some linked ∧ again.graph = output.graph ∧ again.stats = output.stats := by
  intro run
  obtain ⟨output, outcome, held, graph, stats⟩ := linkItems_standard e v indexPath wait items state
  refine ⟨output, Symbols.linkAll items, outcome, ?_, ?_⟩
  · have inside : ∀ link ∈ linksOf (Symbols.linkAll items),
        link.target ∈ (DependencyGraph.ofItems (Symbols.linkAll items)).ids :=
      fun link member => (Symbols.link_of_linkAll member).1
    exact
      { held := held
        links := Symbols.linkAll_links items
        unfailing := by rw [stats]
        resolved := by
          intro item member d depends
          obtain ⟨other, found, target, -⟩ := Symbols.dependency_of_linkAll member depends
          rw [graph]
          exact ⟨other.id, DependencyGraph.mem_ids.mpr ⟨other, found, rfl⟩, target⟩
        loopless := by
          intro edge member
          rw [graph] at member
          exact (Symbols.link_of_linkAll
            (List.mem_of_find?_eq_some (DependencyGraph.mem_edgesOf.mp member).2)).2
        edges := by
          rw [stats]
          exact DependencyGraph.length_edges_ofItems inside }
  · intro later
    obtain ⟨again, outcomeAgain, heldAgain, graphAgain, statsAgain⟩ :=
      linkItems_standard e v indexPath wait (Symbols.linkAll items) later
    rw [Symbols.linkAll_linkAll] at heldAgain graphAgain statsAgain
    refine ⟨again, outcomeAgain, heldAgain, graphAgain.trans graph.symm, ?_⟩
    have length : (Symbols.linkAll items).length = items.length := List.length_map _
    rw [statsAgain, stats, length]

end Standard
end CodeAtlas
