import CodeAtlas.Index.Similarity
import CodeAtlas.Proofs.Float.Single

/-!
Scaling a vector to length one. Squares of large components overflow and those of small ones vanish,
yet the length of a finite vector, if it has one, reaches as far as each of its components, so no
component divided by it overflows. An infinity or a value that is not a number leaves one behind.
-/
namespace CodeAtlas.Embedding

open Rounding

theorem negativeZero_nonnegative : Nonnegative (unpacked negativeZero) := by
  have value : unpacked negativeZero = .zero .negative := rfl
  rw [value]
  trivial

theorem norm_reaches {v : Embedding} (finite : ∀ x ∈ v, x.isFinite = true)
    (positive : 0 < norm v) :
    Reaches (-74) (unpacked (norm v)) ∧
      ∀ x ∈ v, ∀ p ∈ place? (unpacked x), Reaches p (unpacked (norm v)) := by
  have squares : ∀ y ∈ v.map fun x => x * x, Nonnegative (unpacked y) := by
    intro y member
    obtain ⟨x, inside, rfl⟩ := List.mem_map.mp member
    exact (square_reaches (finite x inside)).1
  obtain ⟨total, reached⟩ := foldl_reaches squares negativeZero_nonnegative
  obtain ⟨least, root⟩ := sqrt_reaches total positive
  refine ⟨least, ?_⟩
  intro x inside p place
  by_cases room : -149 < 2 * p - 1
  · have far := (square_reaches (finite x inside)).2 p place room
    exact root p room (reached _ room (.inr ⟨_, List.mem_map_of_mem inside, far⟩))
  · -- The square of a component this small may vanish.
    exact least.mono (by omega)

theorem normalize_finite {v : Embedding} (finite : ∀ x ∈ v, x.isFinite = true) :
    ∀ y ∈ v.normalize, y.isFinite = true := by
  unfold normalize
  split
  · rename_i positive
    obtain ⟨least, far⟩ := norm_reaches finite positive
    intro y member
    obtain ⟨x, inside, rfl⟩ := List.mem_map.mp member
    exact div_finite (finite x inside) least (far x inside)
  · exact finite

theorem norm_not_finite {v : Embedding} {x : Float32} (member : x ∈ v)
    (bad : x.isFinite = false) : (norm v).isFinite = false := by
  apply sqrt_not_finite
  exact foldl_not_finite (.inr ⟨_, List.mem_map_of_mem member, square_not_finite bad⟩)

theorem normalize_finite_iff (v : Embedding) :
    (∀ y ∈ v.normalize, y.isFinite = true) ↔ ∀ x ∈ v, x.isFinite = true := by
  refine ⟨?_, normalize_finite⟩
  intro finite x member
  cases bad : x.isFinite with
  | true => rfl
  | false =>
    unfold normalize at finite
    split at finite
    · have scaled := finite _ (List.mem_map_of_mem member)
      rw [div_not_finite bad (norm_not_finite member bad)] at scaled
      cases scaled
    · exact bad.symm.trans (finite x member)

theorem length_normalize (v : Embedding) : v.normalize.length = v.length := by
  unfold normalize
  split
  · exact List.length_map _
  · rfl

end CodeAtlas.Embedding
