import CodeAtlas.Proofs.Json.Fields
import CodeAtlas.Proofs.Symbols.Resolution
import CodeAtlas.Symbols.Graph
import Mathlib.Algebra.BigOperators.Group.Finset.Basic
import Mathlib.Algebra.GroupWithZero.Nat
import Mathlib.Data.List.Find

/-!
The graph of a collection. Its nodes, its edges and the neighbours each node lists are three accounts
of the same dependencies, and they agree whatever ids collide and whatever dependencies lead nowhere.
-/
namespace CodeAtlas

def linksOf (items : List Item) : List Edge :=
  items.flatMap fun item =>
    item.dependencies.filterMap fun d => d.target.map fun target => ⟨item.id, target, d.kind⟩

namespace Edge

def ends (e : Edge) : String × String := (e.source, e.target)

def place (links : List Edge) (e : Edge) : Nat := links.findIdx fun link => link.ends = e.ends

end Edge

namespace DependencyGraph

def ids (g : DependencyGraph) : List String := g.nodes.map GraphNode.id

/-- The graph has one node for each id and one edge for each pair of ids that is linked, of the kind
of its first link, and every node lists its neighbours along the edges. -/
structure Assembles (items : List Item) (g : DependencyGraph) : Prop where
  keys : ∀ id, id ∈ g.ids ↔ ∃ item ∈ items, item.id = id
  sorted : g.ids.Pairwise (· < ·)
  described : ∀ n ∈ g.nodes, ∃ item, items.reverse.find? (fun i => i.id == n.id) = some item ∧
    n.kind = item.kind ∧ n.filePath = item.filePath
  edges : ∀ e, e ∈ g.edges ↔
    e.target ∈ g.ids ∧ (linksOf items).find? (fun link => link.ends = e.ends) = some e
  ordered : g.edges.Pairwise fun a b => a.place (linksOf items) < b.place (linksOf items)
  ends : ∀ e ∈ g.edges, e.source ∈ g.ids ∧ e.target ∈ g.ids
  outgoing : ∀ n ∈ g.nodes, n.outgoing = (g.edges.filter fun e => e.source == n.id).map Edge.target
  incoming : ∀ n ∈ g.nodes, n.incoming = (g.edges.filter fun e => e.target == n.id).map Edge.source
  paired : ∀ a ∈ g.nodes, ∀ b ∈ g.nodes, b.id ∈ a.outgoing ↔ a.id ∈ b.incoming
  distinct : ∀ n ∈ g.nodes, n.outgoing.Nodup ∧ n.incoming.Nodup
  leaving : (g.nodes.map fun n => n.outgoing.length).sum = g.edges.length
  entering : (g.nodes.map fun n => n.incoming.length).sum = g.edges.length

variable {items : List Item}

/-! Nodes -/

theorem ids_ofItems (items : List Item) : (ofItems items).ids = (itemsById items).map Prod.fst := by
  simp only [ids, ofItems, List.map_map]
  rfl

theorem ids_sorted (items : List Item) : (ofItems items).ids.Pairwise (· < ·) := by
  rw [ids_ofItems, List.pairwise_map]
  exact Json.sorted_sortFields _

theorem mem_itemsById {id : String} {item : Item} :
    (id, item) ∈ itemsById items ↔
      items.reverse.find? (fun i => i.id == id) = some item ∧ item.id = id := by
  rw [itemsById, Json.mem_sortFields, ← List.map_reverse, List.find?_map, Option.map_eq_some_iff]
  simp only [Function.comp_def, Prod.mk.injEq]
  constructor
  · rintro ⟨_, found, same, rfl⟩
    exact ⟨found, same⟩
  · rintro ⟨found, same⟩
    exact ⟨item, found, same, rfl⟩

theorem mem_ids {id : String} : id ∈ (ofItems items).ids ↔ ∃ item ∈ items, item.id = id := by
  rw [ids_ofItems, List.mem_map]
  constructor
  · rintro ⟨⟨_, item⟩, member, rfl⟩
    obtain ⟨found, same⟩ := mem_itemsById.mp member
    exact ⟨item, List.mem_reverse.mp (List.mem_of_find?_eq_some found), same⟩
  · rintro ⟨item, member, same⟩
    obtain ⟨last, found, first⟩ := Symbols.exists_find? (p := fun i : Item => i.id == id)
      (List.mem_reverse.mpr member) (beq_iff_eq.mpr same)
    exact ⟨(id, last), mem_itemsById.mpr ⟨found, beq_iff_eq.mp first⟩, rfl⟩

theorem mem_nodes {n : GraphNode} :
    n ∈ (ofItems items).nodes ↔ ∃ item, (n.id, item) ∈ itemsById items ∧
      nodeOf (edgesOf items) n.id item = n := by
  simp only [ofItems, List.mem_map, Prod.exists]
  constructor
  · rintro ⟨id, item, member, rfl⟩
    exact ⟨item, member, rfl⟩
  · rintro ⟨item, member, same⟩
    exact ⟨n.id, item, member, same⟩

/-! Edges -/

theorem edgesFrom_eq (ids : List String) (item : Item) :
    edgesFrom ids item = (item.dependencies.filterMap fun d =>
      d.target.map fun target => (⟨item.id, target, d.kind⟩ : Edge)).filter fun e =>
        decide (e.target ∈ ids) := by
  rw [edgesFrom, List.filter_filterMap]
  congr 1
  funext d
  cases d.target with
  | none => rfl
  | some target => simp [Option.filter]

theorem edgesOf_eq (items : List Item) :
    edgesOf items = Symbols.distinctBy Edge.ends
      ((linksOf items).filter fun e => decide (e.target ∈ items.map Item.id)) := by
  have each := funext (edgesFrom_eq (items.map Item.id))
  rw [edgesOf, each, linksOf, List.filter_flatMap]
  rfl

theorem ends_known {known : List String} {e : Edge} (inside : e.target ∈ known) :
    (fun link : Edge => decide (link.target ∈ known) && decide (link.ends = e.ends)) =
      fun link => decide (link.ends = e.ends) := by
  funext link
  by_cases same : link.ends = e.ends
  · have target : link.target = e.target := congrArg Prod.snd same
    simp [same, target, inside]
  · simp [same]

theorem mem_edgesOf {e : Edge} : e ∈ edgesOf items ↔
    (∃ item ∈ items, item.id = e.target) ∧
      (linksOf items).find? (fun link => link.ends = e.ends) = some e := by
  rw [edgesOf_eq, Symbols.mem_distinctBy, List.find?_filter, ← List.mem_map]
  by_cases known : e.target ∈ items.map Item.id
  · simp only [Bool.decide_and, Bool.decide_eq_true, beq_eq_decide, ends_known known, known,
      true_and]
  · refine iff_of_false (fun found => known ?_) fun both => known both.1
    have holds := List.find?_some found
    simp only [decide_eq_true_eq] at holds
    exact holds.1

theorem edgesOf_ordered (items : List Item) :
    (edgesOf items).Pairwise fun a b => a.place (linksOf items) < b.place (linksOf items) := by
  have place : ∀ e ∈ edgesOf items, (linksOf items).findIdx
      (fun link => decide (link.target ∈ items.map Item.id) && decide (link.ends = e.ends)) =
        e.place (linksOf items) := by
    intro e member
    rw [ends_known (List.mem_map.mpr (mem_edgesOf.mp member).1), Edge.place]
  have ordered := Symbols.distinctBy_filter_ordered Edge.ends
    (fun e => decide (e.target ∈ items.map Item.id)) (linksOf items)
  rw [← edgesOf_eq] at ordered
  refine ordered.imp_of_mem fun {a b} first second before => ?_
  exact place a first ▸ place b second ▸ before

theorem ends_of_edgesOf {e : Edge} (member : e ∈ edgesOf items) :
    e.source ∈ (ofItems items).ids ∧ e.target ∈ (ofItems items).ids := by
  obtain ⟨target, found⟩ := mem_edgesOf.mp member
  refine ⟨mem_ids.mpr ?_, mem_ids.mpr target⟩
  obtain ⟨item, inside, among⟩ := List.mem_flatMap.mp (List.mem_of_find?_eq_some found)
  obtain ⟨d, -, leads⟩ := List.mem_filterMap.mp among
  obtain ⟨_, -, rfl⟩ := Option.map_eq_some_iff.mp leads
  exact ⟨item, inside, rfl⟩

theorem edgesOf_apart (items : List Item) :
    (edgesOf items).Pairwise fun a b => a.ends ≠ b.ends := by
  refine (edgesOf_ordered items).imp fun {a b} before same => ?_
  rw [Edge.place, Edge.place, same] at before
  exact absurd before (lt_irrefl _)

/-! Neighbours -/

theorem nodup_neighbours {near far : Edge → String} {edges : List Edge}
    (apart : edges.Pairwise fun a b => a.ends ≠ b.ends)
    (both : ∀ a b : Edge, near a = near b → far a = far b → a.ends = b.ends) (id : String) :
    ((edges.filter fun e => near e == id).map far).Nodup := by
  rw [List.Nodup, List.pairwise_map]
  refine (apart.filter _).imp_of_mem fun {a b} first second other same => ?_
  have here : ∀ e ∈ edges.filter fun e => near e == id, near e = id := fun e member => by
    simpa using (List.mem_filter.mp member).2
  exact other (both a b ((here a first).trans (here b second).symm) same)

theorem mem_neighbours {near far : Edge → String} {edges : List Edge} {here there : String} :
    there ∈ (edges.filter fun e => near e == here).map far ↔
      ∃ e ∈ edges, near e = here ∧ far e = there := by
  simp only [List.mem_map, List.mem_filter, beq_iff_eq, and_assoc]

theorem sum_count {ids keys : List String} (distinct : ids.Nodup) (inside : ∀ k ∈ keys, k ∈ ids) :
    (ids.map keys.count).sum = keys.length := by
  rw [← List.sum_toFinset _ distinct, ← Multiset.coe_card, ← Multiset.sum_count_eq_card
    (s := ids.toFinset) (m := (keys : Multiset String)) (by simpa using inside)]
  simp only [Multiset.coe_count]

theorem sum_neighbours {near far : Edge → String} {nodes : List GraphNode} {edges : List Edge}
    {listed : GraphNode → List String} (distinct : (nodes.map GraphNode.id).Nodup)
    (inside : ∀ e ∈ edges, near e ∈ nodes.map GraphNode.id)
    (lists : ∀ n ∈ nodes, listed n = (edges.filter fun e => near e == n.id).map far) :
    (nodes.map fun n => (listed n).length).sum = edges.length := by
  have counted : (nodes.map fun n => (listed n).length) =
      (nodes.map GraphNode.id).map (edges.map near).count := by
    rw [List.map_map]
    refine List.map_congr_left fun n member => ?_
    rw [lists n member, List.length_map, ← List.countP_eq_length_filter, Function.comp_apply,
      List.count, List.countP_map]
    rfl
  rw [counted, sum_count distinct (List.forall_mem_map.mpr inside), List.length_map]

/-- Whatever the items depend on and whatever ids they share, their graph is put together so that its
nodes, its edges and the neighbours listed at the nodes agree. -/
theorem graph_of_items_assembles (items : List Item) : (ofItems items).Assembles items := by
  have outgoing : ∀ n ∈ (ofItems items).nodes,
      n.outgoing = ((edgesOf items).filter fun e => e.source == n.id).map Edge.target := by
    intro n member
    obtain ⟨item, -, same⟩ := mem_nodes.mp member
    exact (congrArg GraphNode.outgoing same).symm
  have incoming : ∀ n ∈ (ofItems items).nodes,
      n.incoming = ((edgesOf items).filter fun e => e.target == n.id).map Edge.source := by
    intro n member
    obtain ⟨item, -, same⟩ := mem_nodes.mp member
    exact (congrArg GraphNode.incoming same).symm
  have distinct : (ofItems items).ids.Nodup := (ids_sorted items).imp ne_of_lt
  exact
    { keys := fun id => mem_ids
      sorted := ids_sorted items
      described := by
        intro n member
        obtain ⟨item, among, same⟩ := mem_nodes.mp member
        exact ⟨item, (mem_itemsById.mp among).1, (congrArg GraphNode.kind same).symm,
          (congrArg GraphNode.filePath same).symm⟩
      edges := fun e => mem_edgesOf.trans (and_congr_left' mem_ids.symm)
      ordered := edgesOf_ordered items
      ends := fun e member => ends_of_edgesOf member
      outgoing := outgoing
      incoming := incoming
      paired := by
        intro a first b second
        rw [outgoing a first, incoming b second, mem_neighbours, mem_neighbours]
        simp only [and_comm]
      distinct := by
        intro n member
        rw [outgoing n member, incoming n member]
        exact ⟨nodup_neighbours (edgesOf_apart items) (fun _ _ => Prod.ext) n.id,
          nodup_neighbours (edgesOf_apart items) (fun _ _ target source => Prod.ext source target)
            n.id⟩
      leaving := sum_neighbours distinct (fun e member => (ends_of_edgesOf member).1) outgoing
      entering := sum_neighbours distinct (fun e member => (ends_of_edgesOf member).2) incoming }

end DependencyGraph
end CodeAtlas
