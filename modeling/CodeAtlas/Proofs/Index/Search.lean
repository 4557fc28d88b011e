import CodeAtlas.Index.Builder
import CodeAtlas.Proofs.Float.Order

/-!
Searching a flat index: the hits are the best ones of all vectors, the best first, and more of them
are wanted at the cost of none.
-/
namespace CodeAtlas

namespace Hit

def ranking (nans : Nat → NaNWord) (h : Hit) : Score :=
  if h.score.isNaN then .undefined (nans h.ordinal) else .number h.score

def Outranks (nans : Nat → NaNWord) (a b : Hit) : Prop :=
  (b.ranking nans).Beneath (a.ranking nans) ∨
    a.ranking nans = b.ranking nans ∧ a.ordinal < b.ordinal

variable {nans : Nat → NaNWord}

theorem word_ranking (h : Hit) : (h.ranking nans).word = h.word nans := by
  unfold ranking word
  split <;> rfl

theorem isNumber_of_ranking {h : Hit} {x : Float32} (number : h.ranking nans = .number x) :
    x.isNaN = false := by
  unfold ranking at number
  split at number
  · cases number
  · rename_i defined
    cases number
    exact Bool.eq_false_iff.mpr defined

theorem wordRank_lt_iff (a b : Hit) : wordRank (a.word nans) < wordRank (b.word nans) ↔
    (a.ranking nans).Beneath (b.ranking nans) := by
  rw [← word_ranking, ← word_ranking]
  exact Score.wordRank_lt_iff (fun _ => isNumber_of_ranking) fun _ => isNumber_of_ranking

theorem ranking_eq_of_wordRank {a b : Hit}
    (same : wordRank (a.word nans) = wordRank (b.word nans)) : a.ranking nans = b.ranking nans := by
  apply Score.word_inj (fun _ => isNumber_of_ranking) fun _ => isNumber_of_ranking
  rw [word_ranking, word_ranking, wordRank_inj same]

theorem precedes_iff (a b : Hit) : a.precedes nans b = true ↔
    wordRank (b.word nans) < wordRank (a.word nans) ∨
      wordRank (a.word nans) = wordRank (b.word nans) ∧ a.ordinal ≤ b.ordinal := by
  simp [precedes]

theorem precedes_trans (a b c : Hit) (first : a.precedes nans b = true)
    (second : b.precedes nans c = true) : a.precedes nans c = true := by
  rw [precedes_iff] at first second ⊢
  omega

theorem precedes_total (a b : Hit) : (a.precedes nans b || b.precedes nans a) = true := by
  rw [Bool.or_eq_true, precedes_iff, precedes_iff]
  omega

theorem outranks_of_precedes {a b : Hit} (precedes : a.precedes nans b = true)
    (apart : a.ordinal ≠ b.ordinal) : a.Outranks nans b := by
  rcases (precedes_iff a b).mp precedes with above | ⟨same, before⟩
  · exact .inl ((wordRank_lt_iff _ _).mp above)
  · exact .inr ⟨ranking_eq_of_wordRank same, Nat.lt_of_le_of_ne before apart⟩

end Hit

namespace FlatIndex

variable (index : FlatIndex) (query : Embedding) (nans : Nat → NaNWord)

/-- At most `k` hits, no vector twice, each with its similarity to the query, the best first and no
vector left out that is better than one of them. -/
structure Best (k : Nat) (hits : List Hit) : Prop where
  count : hits.length = min k index.vectors.length
  distinct : (hits.map Hit.ordinal).Nodup
  scored : ∀ h ∈ hits, ∃ v, index.vectors[h.ordinal]? = some v ∧ h.score = Embedding.cosine query v
  ordered : hits.Pairwise (Hit.Outranks nans)
  others : ∀ i v, index.vectors[i]? = some v → i ∉ hits.map Hit.ordinal →
    ∀ h ∈ hits, h.Outranks nans ⟨i, Embedding.cosine query v⟩

theorem mem_hits {h : Hit} : h ∈ index.hits query ↔
    ∃ v, index.vectors[h.ordinal]? = some v ∧ h.score = Embedding.cosine query v := by
  unfold hits
  rw [List.mem_map]
  constructor
  · rintro ⟨⟨v, ordinal⟩, member, rfl⟩
    exact ⟨v, List.mem_zipIdx_iff_getElem?.mp member, rfl⟩
  · rintro ⟨v, stands, score⟩
    obtain ⟨ordinal, score'⟩ := h
    exact ⟨(v, ordinal), List.mem_zipIdx_iff_getElem?.mpr stands,
      congrArg (Hit.mk ordinal) score.symm⟩

theorem ordinals_hits : (index.hits query).map Hit.ordinal = List.range index.vectors.length := by
  unfold hits
  rw [List.map_map]
  exact (List.zipIdx_map_snd 0 index.vectors).trans List.range_eq_range'.symm

theorem ranked_perm : (index.ranked query nans).Perm (index.hits query) := List.mergeSort_perm _ _

theorem nodup_ranked : ((index.ranked query nans).map Hit.ordinal).Nodup := by
  rw [((index.ranked_perm query nans).map Hit.ordinal).nodup_iff, ordinals_hits]
  exact List.nodup_range

/-- All vectors are ranked, each before all that are worse. -/
theorem ranked_ordered : (index.ranked query nans).Pairwise (Hit.Outranks nans) := by
  have sorted : (index.ranked query nans).Pairwise fun a b => a.precedes nans b = true :=
    List.pairwise_mergeSort Hit.precedes_trans Hit.precedes_total _
  have apart := List.pairwise_map.mp (index.nodup_ranked query nans)
  exact (sorted.and apart).imp fun both => Hit.outranks_of_precedes both.1 both.2

theorem length_ranked : (index.ranked query nans).length = index.vectors.length := by
  rw [(index.ranked_perm query nans).length_eq, ← List.length_map Hit.ordinal, ordinals_hits,
    List.length_range]

theorem best_take (k : Nat) : index.Best query nans k ((index.ranked query nans).take k) := by
  have whole := List.take_append_drop k (index.ranked query nans)
  have ordered := index.ranked_ordered query nans
  rw [← whole, List.pairwise_append] at ordered
  refine ⟨?_, ?_, ?_, ordered.1, ?_⟩
  · rw [List.length_take, length_ranked]
  · exact (index.nodup_ranked query nans).sublist ((List.take_sublist k _).map Hit.ordinal)
  · intro h member
    apply (index.mem_hits query).mp
    exact (index.ranked_perm query nans).subset (List.mem_of_mem_take member)
  · intro i v stands absent h member
    apply ordered.2.2 h member
    have listed : (⟨i, Embedding.cosine query v⟩ : Hit) ∈ index.ranked query nans :=
      (index.ranked_perm query nans).symm.subset ((index.mem_hits query).mpr ⟨v, stands, rfl⟩)
    rw [← whole, List.mem_append] at listed
    exact listed.resolve_left fun taken => absent (List.mem_map_of_mem (f := Hit.ordinal) taken)

theorem search_eq (k : Nat) : index.search query k nans =
    if query.length = index.dimension then .ok ((index.ranked query nans).take k)
    else .error (.dimensionMismatch index.dimension query.length) := by
  unfold search search?
  by_cases fits : query.length = index.dimension <;> simp [fits]

/-- Whatever words stand for the scores that are not numbers, a query of the index's dimension gets
the best hits, and more of them go on where fewer end; any other query is refused. -/
theorem search_returns_best_hits (k : Nat) :
    if query.length = index.dimension then
      ∃ hits, index.search query k nans = .ok hits ∧ index.Best query nans k hits ∧
        ∀ more, ∃ further, index.search query (k + more) nans = .ok (hits ++ further)
    else index.search query k nans = .error (.dimensionMismatch index.dimension query.length) := by
  split
  · rename_i fits
    refine ⟨_, by rw [search_eq, if_pos fits], index.best_take query nans k, ?_⟩
    intro more
    refine ⟨((index.ranked query nans).drop k).take more, ?_⟩
    rw [search_eq, if_pos fits, List.take_add]
  · rename_i unfit
    rw [search_eq, if_neg unfit]

end FlatIndex
end CodeAtlas
