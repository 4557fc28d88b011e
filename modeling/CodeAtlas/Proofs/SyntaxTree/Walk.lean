import CodeAtlas.Proofs.SyntaxTree.Sites

/-!
A cursor that walks a tree: down to the first child, else across to the next sibling, else up until
there is a next sibling. It stops at the root, and what it has then visited is the listing of the
tree: each node once, a node before all below it, children in order.
-/
namespace CodeAtlas

namespace Site

def firstChild? (site : Site) : Option Site :=
  site.node.children.head?.map fun c => ⟨c, [], site.frame :: site.above⟩

def nextSibling? (site : Site) : Option Site :=
  match site.above with
  | [] => none
  | frame :: _ =>
    frame.node.children[site.earlier.length + 1]?.map fun c =>
      ⟨c, site.node :: site.earlier, site.above⟩

def leave? (node : Node) (earlier : List Node) : List Frame → Option Site
  | [] => none
  | frame :: above =>
    (nextSibling? ⟨node, earlier, frame :: above⟩).or (leave? frame.node frame.earlier above)

def next? (site : Site) : Option Site :=
  site.firstChild?.or (leave? site.node site.earlier site.above)

inductive Walk : Option Site → List Site → Prop where
  | stop : Walk none []
  | visit {site : Site} {visited : List Site} (rest : Walk site.next? visited) :
      Walk (some site) (site :: visited)

end Site

open Site

theorem getElem?_after (siblings : List Node) (c : Node) (later : List Node) :
    (siblings.reverse ++ c :: later)[siblings.length + 1]? = later.head? := by
  rw [List.getElem?_append_right (by rw [List.length_reverse]; omega), List.length_reverse,
    Nat.add_sub_cancel_left, List.getElem?_cons_succ, List.head?_eq_getElem?]

variable {parent c d : Node} {earlier siblings later : List Node} {above : List Frame}
  {visited : List Site}

theorem leave?_last (children : parent.children = siblings.reverse ++ [c]) :
    leave? c siblings (⟨parent, earlier⟩ :: above) = leave? parent earlier above := by
  rw [leave?, nextSibling?]
  dsimp only
  rw [children, getElem?_after]
  rfl

theorem leave?_next (children : parent.children = siblings.reverse ++ c :: d :: later) :
    leave? c siblings (⟨parent, earlier⟩ :: above) =
      some ⟨d, c :: siblings, ⟨parent, earlier⟩ :: above⟩ := by
  rw [leave?, nextSibling?]
  dsimp only
  rw [children, getElem?_after]
  rfl

theorem walk_children
    (each : ∀ c ∈ parent.children, ∀ (siblings : List Node) (visited : List Site),
      Walk (leave? c siblings (⟨parent, earlier⟩ :: above)) visited →
      Walk (some ⟨c, siblings, ⟨parent, earlier⟩ :: above⟩)
        (c.sites (⟨parent, earlier⟩ :: above) siblings ++ visited))
    (after : Walk (leave? parent earlier above) visited)
    (children : parent.children = siblings.reverse ++ c :: later) :
    Walk (some ⟨c, siblings, ⟨parent, earlier⟩ :: above⟩)
      (sitesOfAll (⟨parent, earlier⟩ :: above) siblings (c :: later) ++ visited) := by
  induction later generalizing c siblings with
  | nil =>
    rw [sitesOfAll, sitesOfAll, List.append_nil]
    refine each c (by simp [children]) siblings visited ?_
    rwa [leave?_last children]
  | cons d later ih =>
    rw [sitesOfAll, List.append_assoc]
    refine each c (by simp [children]) siblings _ ?_
    rw [leave?_next children]
    exact ih (by rw [children, List.reverse_cons, List.append_assoc]; rfl)

/-- The cursor visits a node and all below it, and then goes on to what comes after the node. -/
theorem walk_sites (n : Node) (earlier : List Node) (above : List Frame) (visited : List Site)
    (after : Walk (leave? n earlier above) visited) :
    Walk (some ⟨n, earlier, above⟩) (n.sites above earlier ++ visited) := by
  -- What is visited after the node varies: a child is followed by its siblings' nodes first.
  induction n generalizing earlier above visited with
  | mk label start stop rows children ih =>
    rw [Node.sites]
    refine .visit ?_
    cases children with
    | nil => exact after
    | cons c later =>
      have whole : (Node.mk label start stop rows (c :: later)).children = [].reverse ++ c :: later :=
        rfl
      exact walk_children (fun child among siblings => ih child among siblings _) after whole

structure Node.Toured (root : Node) (visited : List Site) : Prop where
  walk : Walk (some (.ofRoot root)) visited
  everywhere : ∀ path n,
    (∃ site ∈ visited, site.path = path ∧ site.node = n) ↔ root.at? path = some n
  preorder : visited.Pairwise fun a b => a.path < b.path

theorem toured_allSites (root : Node) : root.Toured root.allSites where
  walk := List.append_nil root.allSites ▸ walk_sites root [] [] [] .stop
  everywhere _ _ := site_at_iff
  preorder := sites_ordered [] [] root

end CodeAtlas
