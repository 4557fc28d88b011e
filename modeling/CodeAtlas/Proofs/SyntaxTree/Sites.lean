import CodeAtlas.SyntaxTree.Basic
import Mathlib.Data.List.Lex

/-!
The sites of a tree and their paths. A path counts, from the root down, the siblings to the left;
each path that stays inside the tree belongs to one site, and the sites are listed in the order of
their paths, so that a node comes before all that is below it or to the right of it.
-/
namespace CodeAtlas

/-- Induction over a tree, with what holds of the children. -/
@[elab_as_elim, induction_eliminator]
theorem Node.induction {motive : Node → Prop}
    (mk : ∀ label start stop rows children, (∀ c ∈ children, motive c) →
      motive (.mk label start stop rows children)) (n : Node) : motive n :=
  match n with
  | .mk label start stop rows children =>
    mk label start stop rows children fun c _ => Node.induction mk c

def Node.at? (n : Node) : List Nat → Option Node
  | [] => some n
  | i :: path => n.children[i]?.bind fun c => c.at? path

namespace Site

def ofRoot (n : Node) : Site := ⟨n, [], []⟩

def pathTo (earlier : List Node) : List Frame → List Nat
  | [] => []
  | frame :: above => pathTo frame.earlier above ++ [earlier.length]

def path (site : Site) : List Nat := pathTo site.earlier site.above

end Site

theorem mem_sitesOfAll {above : List Frame} {earlier nodes : List Node} {site : Site} :
    site ∈ sitesOfAll above earlier nodes ↔
      ∃ (i : Nat) (c : Node), nodes[i]? = some c ∧
        site ∈ c.sites above ((nodes.take i).reverse ++ earlier) := by
  induction nodes generalizing earlier with
  | nil => simp [sitesOfAll]
  | cons n rest ih =>
    rw [sitesOfAll, List.mem_append, ih]
    constructor
    · rintro (first | ⟨i, c, here, later⟩)
      · exact ⟨0, n, rfl, first⟩
      · exact ⟨i + 1, c, here, by simpa using later⟩
    · rintro ⟨_ | i, c, here, member⟩
      · cases here
        exact .inl member
      · exact .inr ⟨i, c, here, by simpa using member⟩

theorem mem_sites {above : List Frame} {earlier : List Node} {n : Node} {site : Site} :
    site ∈ n.sites above earlier ↔ site = ⟨n, earlier, above⟩ ∨
      ∃ (i : Nat) (c : Node), n.children[i]? = some c ∧
        site ∈ c.sites (⟨n, earlier⟩ :: above) (n.children.take i).reverse := by
  obtain ⟨label, start, stop, children⟩ := n
  rw [Node.sites, List.mem_cons, mem_sitesOfAll]
  simp only [List.append_nil]
  rfl

theorem parent_of_mem_sites {above : List Frame} {earlier : List Node} {n : Node} {site : Site}
    (member : site ∈ n.sites above earlier) :
    site = ⟨n, earlier, above⟩ ∨ ∃ p ∈ n.sites above earlier, site.parent? = some p := by
  induction n generalizing above earlier with
  | mk label start stop rows children ih =>
    rcases mem_sites.mp member with first | ⟨i, c, here, below⟩
    · exact .inl first
    · refine .inr ?_
      rcases ih c (List.mem_of_getElem? here) below with rfl | ⟨p, inside, up⟩
      · exact ⟨_, mem_sites.mpr (.inl rfl), rfl⟩
      · exact ⟨p, mem_sites.mpr (.inr ⟨i, c, here, inside⟩), up⟩

theorem mem_allSites_of_parent {root : Node} {site p : Site} (member : site ∈ root.allSites)
    (up : site.parent? = some p) : p ∈ root.allSites := by
  rcases parent_of_mem_sites member with rfl | ⟨other, inside, above⟩
  · cases up
  · rw [up] at above
    cases above
    exact inside

/-! Paths -/

theorem length_take_of_getElem {nodes : List Node} {i : Nat} {c : Node}
    (here : nodes[i]? = some c) : (nodes.take i).reverse.length = i := by
  obtain ⟨inside, -⟩ := List.getElem?_eq_some_iff.mp here
  rw [List.length_reverse, List.length_take, Nat.min_eq_left (Nat.le_of_lt inside)]

theorem pathTo_child {n c : Node} {i : Nat} (here : n.children[i]? = some c) (earlier : List Node)
    (above : List Frame) :
    Site.pathTo (n.children.take i).reverse (⟨n, earlier⟩ :: above) =
      Site.pathTo earlier above ++ [i] := by
  rw [Site.pathTo, length_take_of_getElem here]

theorem path_of_mem_sites {above : List Frame} {earlier : List Node} {n : Node} {site : Site}
    (member : site ∈ n.sites above earlier) :
    ∃ path, site.path = Site.pathTo earlier above ++ path ∧ n.at? path = some site.node := by
  induction n generalizing above earlier with
  | mk label start stop rows children ih =>
    rcases mem_sites.mp member with rfl | ⟨i, c, here, below⟩
    · exact ⟨[], (List.append_nil _).symm, rfl⟩
    · obtain ⟨path, whole, leads⟩ := ih c (List.mem_of_getElem? here) below
      refine ⟨i :: path, ?_, ?_⟩
      · rw [whole, pathTo_child here, List.append_assoc]
        rfl
      · rw [Node.at?, here]
        exact leads

theorem exists_site_at {above : List Frame} {earlier : List Node} {n m : Node} {path : List Nat}
    (leads : n.at? path = some m) :
    ∃ site ∈ n.sites above earlier,
      site.path = Site.pathTo earlier above ++ path ∧ site.node = m := by
  induction path generalizing n above earlier with
  | nil =>
    cases leads
    exact ⟨_, mem_sites.mpr (.inl rfl), (List.append_nil _).symm, rfl⟩
  | cons i path ih =>
    obtain ⟨c, here, rest⟩ := Option.bind_eq_some_iff.mp leads
    have further (siblings : List Node) : ∃ site ∈ c.sites (⟨n, earlier⟩ :: above) siblings,
        site.path = Site.pathTo siblings (⟨n, earlier⟩ :: above) ++ path ∧ site.node = m := ih rest
    obtain ⟨site, below, whole, same⟩ := further (n.children.take i).reverse
    refine ⟨site, mem_sites.mpr (.inr ⟨i, c, here, below⟩), ?_, same⟩
    rw [whole, pathTo_child here, List.append_assoc]
    rfl

/-- The sites of a tree are the paths that stay inside it. -/
theorem site_at_iff {root n : Node} {path : List Nat} :
    (∃ site ∈ root.allSites, site.path = path ∧ site.node = n) ↔ root.at? path = some n := by
  constructor
  · rintro ⟨site, member, rfl, rfl⟩
    obtain ⟨path, whole, leads⟩ := path_of_mem_sites member
    rw [whole]
    exact leads
  · exact exists_site_at

/-! The listing is in the order of the paths -/

theorem lt_append_of_ne_nil (path : List Nat) {more : List Nat} (longer : more ≠ []) :
    path < path ++ more := by
  obtain ⟨i, rest, rfl⟩ := List.exists_cons_of_ne_nil longer
  simpa using List.Lex.append_left (· < ·) (List.Lex.nil (a := i) (l := rest)) path

theorem append_cons_lt (path : List Nat) {i j : Nat} (ordered : i < j) (left right : List Nat) :
    path ++ i :: left < path ++ j :: right :=
  List.Lex.append_left (· < ·) (.rel ordered) path

theorem path_of_mem_sitesOfAll {frame : Frame} {above : List Frame} {earlier nodes : List Node}
    {site : Site} (member : site ∈ sitesOfAll (frame :: above) earlier nodes) :
    ∃ i path, site.path = Site.pathTo frame.earlier above ++ (earlier.length + i) :: path := by
  obtain ⟨i, c, here, below⟩ := mem_sitesOfAll.mp member
  obtain ⟨path, whole, -⟩ := path_of_mem_sites below
  refine ⟨i, path, ?_⟩
  rw [whole, Site.pathTo, List.length_append, length_take_of_getElem here, List.append_assoc,
    Nat.add_comm]
  rfl

theorem sitesOfAll_ordered {frame : Frame} {above : List Frame} {earlier nodes : List Node}
    (each : ∀ c ∈ nodes, ∀ siblings,
      (c.sites (frame :: above) siblings).Pairwise fun a b => a.path < b.path) :
    (sitesOfAll (frame :: above) earlier nodes).Pairwise fun a b => a.path < b.path := by
  induction nodes generalizing earlier with
  | nil => exact .nil
  | cons n rest ih =>
    rw [sitesOfAll]
    refine List.pairwise_append.mpr ⟨each n (.head _) earlier,
      ih fun c among => each c (.tail _ among), fun a first b later => ?_⟩
    obtain ⟨left, whole, -⟩ := path_of_mem_sites first
    obtain ⟨i, right, whole'⟩ := path_of_mem_sitesOfAll later
    rw [whole, whole', Site.pathTo, List.append_assoc]
    exact append_cons_lt _ (by rw [List.length_cons]; omega) _ _

/-- A node's path is shorter than those below it, and theirs part at the child they pass. -/
theorem sites_ordered (above : List Frame) (earlier : List Node) (n : Node) :
    (n.sites above earlier).Pairwise fun a b => a.path < b.path := by
  induction n generalizing above earlier with
  | mk label start stop rows children ih =>
    rw [Node.sites]
    refine List.pairwise_cons.mpr
      ⟨fun site below => ?_, sitesOfAll_ordered fun c among => ih c among _⟩
    obtain ⟨i, path, whole⟩ := path_of_mem_sitesOfAll below
    rw [whole]
    exact lt_append_of_ne_nil _ (List.cons_ne_nil _ _)

end CodeAtlas
