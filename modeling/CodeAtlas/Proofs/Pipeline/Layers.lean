import CodeAtlas.Proofs.Item.Layers
import CodeAtlas.Proofs.Pipeline.Batches
import CodeAtlas.Proofs.Pipeline.Frame

/-!
Which layers the items of each stage have. Every stage adds its own layer to the items it takes, so
that, whatever stages were run and however they ended, no item held by a stage lacks a layer of the
stages before or has one of a stage after.
-/
namespace CodeAtlas

open List (Forall₂)

namespace Item

def Links (before after : Item) : Prop := ∃ found, after = { before with dependencies := found }

def Describes (before after : Item) : Prop := ∃ e : Enrichment, after = e.apply before

def Embeds (dimension : Nat) (before after : Item) : Prop :=
  ∃ vector, vector.length = dimension ∧ after = setVector before vector

end Item

/-! What each stage adds -/

section Additions

variable {State : Type} (s : Services State)

theorem link_zipWith (items : List Item) (found : List (Option (List Dependency)))
    (length : items.length = found.length) :
    Forall₂ Item.Links items (List.zipWith link items found) := by
  induction items generalizing found with
  | nil => exact .nil
  | cons item rest ih =>
    cases found with
    | nil => cases length
    | cons first others =>
      exact .cons ⟨_, rfl⟩ (ih others (Nat.succ.inj length))

theorem linkItems_links (items : List Item) (state : State) :
    ∃ output linked, (linkItems s items state).outcome = .ok output ∧
      output.items = some linked ∧ Forall₂ Item.Links items linked := by
  refine ⟨_, _, rfl, rfl, link_zipWith items _ ?_⟩
  exact (inOrder_forall (fun _ _ => True) (s.dependenciesOf items) (fun _ _ => trivial) items
    (s.prepare items state)).length_eq

theorem fillMissing_describes (e : Enrichment) (item : Item) :
    Item.Describes item (e.fillMissing item) :=
  ⟨⟨item.description.getD e.description, item.summary.getD e.summary, item.tags.getD []⟩, rfl⟩

theorem applyAll_describes (enrichments : List Enrichment) (items : List Item) :
    Forall₂ Item.Describes items (applyAll enrichments items) := by
  induction items generalizing enrichments with
  | nil => cases enrichments <;> exact .nil
  | cons item rest ih =>
    cases enrichments with
    | nil => exact .cons ⟨missingReply, rfl⟩ (ih [])
    | cons e es => exact .cons ⟨e, rfl⟩ (ih es)

theorem describeBatch_describes (batch : List Item) (state : State) :
    Forall₂ Item.Describes batch (describeBatch s batch state).1.items := by
  unfold describeBatch
  split
  · exact applyAll_describes _ batch
  · rw [List.forall₂_map_right_iff, List.forall₂_same]
    intro item _
    exact fillMissing_describes _ item

theorem describeItems_describes (size delayMillis : Nat) (items : List Item) (state : State) :
    ∃ output described, (describeItems s size delayMillis items state).outcome = .ok output ∧
      output.items = some described ∧ Forall₂ Item.Describes items described :=
  ⟨_, _, rfl, rfl, inBatches_flatten Item.Describes DescribedBatch.items s delayMillis size
    (describeBatch s) (describeBatch_describes s) items state⟩

theorem setVector_zipWith (dimension : Nat) (batch : List Item) (vectors : List Embedding)
    (length : vectors.length = batch.length) (fit : ∀ v ∈ vectors, v.length = dimension) :
    Forall₂ (Item.Embeds dimension) batch (List.zipWith setVector batch vectors) := by
  induction batch generalizing vectors with
  | nil => exact .nil
  | cons item rest ih =>
    cases vectors with
    | nil => cases length
    | cons vector others =>
      refine .cons ⟨vector, fit vector List.mem_cons_self, rfl⟩ (ih others (Nat.succ.inj length) ?_)
      intro v member
      exact fit v (List.mem_cons_of_mem vector member)

theorem settle_embeds (dimension : Nat) (batch : List Item)
    (answer : Except ServiceFault (List Embedding)) :
    Forall₂ (Item.Embeds dimension) batch (settle dimension batch answer).items := by
  unfold settle
  split
  · rename_i fit
    cases answer with
    | error fault => cases fit
    | ok vectors =>
      simp only [fits, Bool.and_eq_true, beq_iff_eq, List.all_eq_true] at fit
      exact setVector_zipWith dimension batch vectors fit.1 fit.2
  · rw [List.forall₂_map_right_iff, List.forall₂_same]
    intro item _
    exact ⟨zeroVector dimension, List.length_replicate, rfl⟩

theorem embedItems_embeds (size delayMillis dimension : Nat) (items : List Item) (state : State) :
    ∃ output embedded,
      (embedItems s size delayMillis dimension items state).outcome = .ok output ∧
      output.dimension = dimension ∧ output.items = some embedded ∧
      Forall₂ (Item.Embeds dimension) items embedded :=
  ⟨_, _, rfl, rfl, rfl, inBatches_flatten (Item.Embeds dimension) EmbeddedBatch.items s delayMillis
    size (embedBatch s dimension) (fun batch _ => settle_embeds dimension batch _) items state⟩

end Additions

theorem vectorsOf_of_vectors (dimension : Nat) (items : List Item)
    (vectors : ∀ item ∈ items, item.HasVector dimension) :
    vectorsOf dimension items = .ok (items.filterMap Item.vector) := by
  induction items with
  | nil => rfl
  | cons item rest ih =>
    obtain ⟨vector, stands, length⟩ := vectors item List.mem_cons_self
    have others := ih fun other member => vectors other (List.mem_cons_of_mem item member)
    simp only [vectorsOf, stands, length, ↓reduceIte, others, List.filterMap_cons]

end CodeAtlas
