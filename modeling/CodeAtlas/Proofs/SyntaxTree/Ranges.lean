import CodeAtlas.Proofs.SyntaxTree.Sites
import CodeAtlas.Proofs.Text.Octets

/-!
Ranges of octets in a tree that fits its source. Any two nodes of such a tree are nested or one
lies before the other.
-/
namespace CodeAtlas

namespace Node

def Inside (a b : Node) : Prop := b.start ≤ a.start ∧ a.stop ≤ b.stop

def Before (a b : Node) : Prop := a.stop ≤ b.start

def NestedOrApart (a b : Node) : Prop := a.Inside b ∨ b.Inside a ∨ a.Before b ∨ b.Before a

instance (a b : Node) : Decidable (a.Inside b) := inferInstanceAs (Decidable (_ ∧ _))

instance (a b : Node) : Decidable (a.Before b) := inferInstanceAs (Decidable (_ ≤ _))

/-- A node begins and ends between characters of the source, in the rows of these places, and its
children lie inside it, each before those to its right. -/
structure Aligned (source : Line) (n : Node) : Prop where
  ordered : n.start ≤ n.stop
  rows : n.rows source = n.countedRows source
  first : Text.IsBoundary n.start source
  last : Text.IsBoundary n.stop source
  inside : ∀ c ∈ n.children, c.Inside n
  apart : n.children.Pairwise Before

inductive Fits (source : Line) : Node → Prop where
  | intro {n : Node} (aligned : n.Aligned source) (below : ∀ c ∈ n.children, c.Fits source) :
      Fits source n

instance (source : Line) (n : Node) : Decidable (n.Aligned source) :=
  decidable_of_iff (n.start ≤ n.stop ∧ n.rows source = n.countedRows source ∧
      Text.IsBoundary n.start source ∧ Text.IsBoundary n.stop source ∧
      (∀ c ∈ n.children, c.Inside n) ∧ n.children.Pairwise Before)
    ⟨fun ⟨ordered, rows, first, last, inside, apart⟩ => ⟨ordered, rows, first, last, inside, apart⟩,
      fun ⟨ordered, rows, first, last, inside, apart⟩ => ⟨ordered, rows, first, last, inside, apart⟩⟩

theorem Inside.refl (a : Node) : a.Inside a := ⟨Nat.le_refl _, Nat.le_refl _⟩

theorem Inside.trans {a b c : Node} (inner : a.Inside b) (outer : b.Inside c) : a.Inside c :=
  ⟨Nat.le_trans outer.1 inner.1, Nat.le_trans inner.2 outer.2⟩

theorem Before.of_inside {a b c d : Node} (ordered : c.Before d) (left : a.Inside c)
    (right : b.Inside d) : a.Before b :=
  Nat.le_trans left.2 (Nat.le_trans ordered right.1)

theorem before_of_lt {nodes : List Node} (apart : nodes.Pairwise Before) {i j : Nat} {c d : Node}
    (here : nodes[i]? = some c) (there : nodes[j]? = some d) (left : i < j) : c.Before d := by
  obtain ⟨inside, rfl⟩ := List.getElem?_eq_some_iff.mp here
  obtain ⟨inside', rfl⟩ := List.getElem?_eq_some_iff.mp there
  exact List.pairwise_iff_getElem.mp apart i j inside inside' left

namespace Fits

variable {source : Line} {n : Node} {above : List Frame} {earlier : List Node} {site : Site}

theorem of_mem_sites (fits : n.Fits source) (member : site ∈ n.sites above earlier) :
    site.node.Fits source := by
  induction n generalizing above earlier with
  | mk label start stop rows children ih =>
    rcases mem_sites.mp member with rfl | ⟨i, c, here, deeper⟩
    · exact fits
    · obtain ⟨-, below⟩ := fits
      have among := List.mem_of_getElem? here
      exact ih c among (below c among) deeper

theorem inside_of_mem_sites (fits : n.Fits source) (member : site ∈ n.sites above earlier) :
    site.node.Inside n := by
  induction n generalizing above earlier with
  | mk label start stop rows children ih =>
    rcases mem_sites.mp member with rfl | ⟨i, c, here, deeper⟩
    · exact .refl _
    · obtain ⟨aligned, below⟩ := fits
      have among := List.mem_of_getElem? here
      exact (ih c among (below c among) deeper).trans (aligned.inside c among)

/-- Any two nodes of a tree that fits are nested, or one lies before the other. -/
theorem nestedOrApart {other : Site} (fits : n.Fits source)
    (member : site ∈ n.sites above earlier) (member' : other ∈ n.sites above earlier) :
    site.node.NestedOrApart other.node := by
  induction n generalizing above earlier with
  | mk label start stop rows children ih =>
    rcases mem_sites.mp member with rfl | ⟨i, c, here, deeper⟩
    · exact .inr (.inl (fits.inside_of_mem_sites member'))
    rcases mem_sites.mp member' with rfl | ⟨j, d, there, deeper'⟩
    · exact .inl (fits.inside_of_mem_sites member)
    -- Both lie below the node: below one child, or below two that stand side by side.
    obtain ⟨aligned, below⟩ := fits
    have among := List.mem_of_getElem? here
    have among' := List.mem_of_getElem? there
    have within := (below c among).inside_of_mem_sites deeper
    have within' := (below d among').inside_of_mem_sites deeper'
    rcases Nat.lt_trichotomy i j with left | same | right
    · have ordered := before_of_lt aligned.apart here there left
      exact .inr (.inr (.inl (ordered.of_inside within within')))
    · subst same
      obtain rfl : c = d := Option.some.inj (here.symm.trans there)
      exact ih c among (below c among) deeper deeper'
    · have ordered := before_of_lt aligned.apart there here right
      exact .inr (.inr (.inr (ordered.of_inside within' within)))

theorem iff_sites (above : List Frame) (earlier : List Node) :
    n.Fits source ↔ ∀ site ∈ n.sites above earlier, site.node.Aligned source := by
  constructor
  · intro fits site member
    obtain ⟨aligned, -⟩ := fits.of_mem_sites member
    exact aligned
  · intro each
    induction n generalizing above earlier with
    | mk label start stop rows children ih =>
      refine .intro (each _ (mem_sites.mpr (.inl rfl))) fun c among => ?_
      obtain ⟨i, here⟩ := List.getElem?_of_mem among
      exact ih c among _ _ fun site deeper => each site (mem_sites.mpr (.inr ⟨i, c, here, deeper⟩))

end Fits

instance (source : Line) (root : Node) : Decidable (root.Fits source) :=
  decidable_of_iff (∀ site ∈ root.allSites, site.node.Aligned source) (Fits.iff_sites [] []).symm

end Node
end CodeAtlas
