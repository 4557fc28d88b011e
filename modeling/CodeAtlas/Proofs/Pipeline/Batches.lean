import CodeAtlas.Pipeline.Services
import Mathlib.Algebra.Order.Floor.Div
import Mathlib.Data.List.Forall2

/-!
Work in order and in batches. Cutting a list into batches loses nothing and leaves every element at
a place known from its own, and a relation between each element and its result holds between the
whole list and all results.
-/
namespace CodeAtlas

open List (Forall₂)

variable {State α β : Type}

theorem map_eq_of_forall {γ : Type} {R : α → β → Prop} {f : α → γ} {g : β → γ} {xs : List α}
    {ys : List β} (related : Forall₂ R xs ys) (same : ∀ x y, R x y → g y = f x) :
    ys.map g = xs.map f := by
  induction related with
  | nil => rfl
  | cons first _ ih => rw [List.map_cons, List.map_cons, ih, same _ _ first]

theorem batches_flatten (size : Nat) (items : List α) : (batches size items).flatten = items := by
  fun_induction batches size items with
  | case1 => rfl
  | case2 a rest ih =>
    rw [List.flatten_cons, ih, List.cons_append, List.take_append_drop]

theorem mem_batches {size : Nat} {items batch : List α} (among : batch ∈ batches size items) {a : α}
    (inside : a ∈ batch) : a ∈ items := by
  rw [← batches_flatten size items]
  exact List.mem_flatten.mpr ⟨batch, among, inside⟩

theorem batches_get (size : Nat) (items : List α) (k : Nat) :
    (batches size items)[k]? =
      if k * max size 1 < items.length then
        some ((items.drop (k * max size 1)).take (max size 1))
      else none := by
  obtain ⟨width, wide⟩ : ∃ width, max size 1 = width + 1 := ⟨size - 1, by omega⟩
  have less : size - 1 = width := by omega
  rw [wide]
  fun_induction batches size items generalizing k with
  | case1 => simp
  | case2 a rest ih =>
    rw [less] at ih ⊢
    cases k with
    | zero => simp
    | succ k =>
      have further : (k + 1) * (width + 1) = width + k * (width + 1) + 1 := by
        rw [Nat.succ_mul]
        omega
      have same : k * (width + 1) < rest.length - width ↔
          width + k * (width + 1) + 1 < rest.length + 1 := by omega
      rw [List.getElem?_cons_succ, ih, further, List.drop_succ_cons, List.drop_drop,
        List.length_drop, List.length_cons]
      simp only [same]

theorem batches_eq_map_range (size : Nat) (items : List α) :
    batches size items = (List.range (items.length ⌈/⌉ max size 1)).map fun k =>
      (items.drop (k * max size 1)).take (max size 1) := by
  have positive : 0 < max size 1 := by omega
  apply List.ext_getElem?
  intro k
  have inside : k < items.length ⌈/⌉ max size 1 ↔ k * max size 1 < items.length := by
    rw [← not_le, ceilDiv_le_iff_le_mul positive, Nat.mul_comm, not_le]
  rw [batches_get, List.getElem?_map]
  by_cases among : k * max size 1 < items.length
  · rw [if_pos among, List.getElem?_range (inside.mpr among), Option.map_some]
  · have beyond : (List.range (items.length ⌈/⌉ max size 1))[k]? = none := by
      rw [List.getElem?_eq_none_iff, List.length_range]
      exact Nat.le_of_not_lt (mt inside.mp among)
    rw [if_neg among, beyond, Option.map_none]

theorem flatten_get_of_batches (size : Nat) (items : List α) (results : List (List β))
    (lengths : Forall₂ (fun batch result => result.length = batch.length) (batches size items)
      results) (i : Nat) :
    results.flatten[i]? = results[i / max size 1]?.bind fun result => result[i % max size 1]? := by
  obtain ⟨width, wide⟩ : ∃ width, max size 1 = width + 1 := ⟨size - 1, by omega⟩
  have less : size - 1 = width := by omega
  rw [wide]
  fun_induction batches size items generalizing results i with
  | case1 =>
    cases lengths
    rfl
  | case2 a rest ih =>
    rw [less] at lengths ih
    obtain ⟨result, others, first, later, rfl⟩ := List.forall₂_cons_left_iff.mp lengths
    rw [List.length_cons, List.length_take] at first
    rw [List.flatten_cons]
    by_cases full : width ≤ rest.length
    · have whole : result.length = width + 1 := by omega
      by_cases early : i < width + 1
      · rw [List.getElem?_append_left (by omega), Nat.div_eq_of_lt early, Nat.mod_eq_of_lt early]
        rfl
      · have next : i / (width + 1) = (i - (width + 1)) / (width + 1) + 1 :=
          Nat.div_eq_sub_div (by omega) (by omega)
        have place : i % (width + 1) = (i - (width + 1)) % (width + 1) :=
          Nat.mod_eq_sub_mod (by omega)
        rw [List.getElem?_append_right (by omega), whole, ih others later, next, place]
        rfl
    · -- The first batch takes all that is left.
      have none_left : rest.drop width = [] := List.drop_eq_nil_of_le (by omega)
      rw [none_left, batches, List.forall₂_nil_left_iff] at later
      subst later
      rw [List.flatten_nil, List.append_nil]
      by_cases early : i < width + 1
      · rw [Nat.div_eq_of_lt early, Nat.mod_eq_of_lt early]
        rfl
      · obtain ⟨n, next⟩ : ∃ n, i / (width + 1) = n + 1 :=
          ⟨_, Nat.div_eq_sub_div (by omega) (by omega)⟩
        rw [next, List.getElem?_eq_none (by omega)]
        rfl

theorem flatMap_length_of_batches {Done : Type} {R : List α → Done → Prop}
    (results : Done → List β)
    (lengths : ∀ {batch done}, R batch done → (results done).length = batch.length) {size : Nat}
    {items : List α} {done : List Done} (related : Forall₂ R (batches size items) done) :
    (done.flatMap results).length = items.length := by
  rw [← batches_flatten size items]
  generalize batches size items = cut at related
  induction related with
  | nil => rfl
  | cons first _ ih =>
    rw [List.flatMap_cons, List.length_append, lengths first, ih, List.flatten_cons,
      List.length_append]

/-- Element `i` lies in batch `i / size` at place `i % size`, and so does what the batch gives for
it. -/
theorem flatMap_get_of_batches {Done : Type} {R : List α → Done → Prop} (results : Done → List β)
    (lengths : ∀ {batch done}, R batch done → (results done).length = batch.length) {size : Nat}
    {items : List α} {done : List Done} (related : Forall₂ R (batches size items) done) {i : Nat}
    {a : α} (inside : items[i]? = some a) :
    ∃ batch result, R batch result ∧ done[i / max size 1]? = some result ∧
      batch[i % max size 1]? = some a ∧
      (done.flatMap results)[i]? = (results result)[i % max size 1]? := by
  have bound : i < items.length := (List.getElem?_eq_some_iff.mp inside).1
  have place : max size 1 * (i / max size 1) + i % max size 1 = i := Nat.div_add_mod i _
  have among : i / max size 1 * max size 1 < items.length := by
    rw [Nat.mul_comm]
    omega
  have cut := batches_get size items (i / max size 1)
  rw [if_pos among] at cut
  obtain ⟨reaches, isBatch⟩ := List.getElem?_eq_some_iff.mp cut
  have answered : i / max size 1 < done.length := related.length_eq ▸ reaches
  refine ⟨_, _, related.get reaches answered, List.getElem?_eq_getElem answered, ?_, ?_⟩
  · rw [List.get_eq_getElem, isBatch, List.getElem?_take_of_lt (Nat.mod_lt _ (by omega)),
      List.getElem?_drop, Nat.mul_comm, place, inside]
  · rw [List.flatMap_def, flatten_get_of_batches size items, List.getElem?_map,
      List.getElem?_eq_getElem answered]
    · rfl
    · rw [List.forall₂_map_right_iff]
      exact related.imp fun _ _ => lengths

theorem inOrder_forall (R : α → β → Prop) (work : α → State → β × State)
    (each : ∀ a state, R a (work a state).1) (items : List α) (state : State) :
    Forall₂ R items (inOrder work items state).1 := by
  induction items generalizing state with
  | nil => exact .nil
  | cons a rest ih => exact .cons (each a state) (ih (work a state).2)

theorem inBatches_forall (R : α → β → Prop) (s : Services State) (delayMillis : Nat)
    (work : α → State → β × State) (each : ∀ batch state, R batch (work batch state).1)
    (items : List α) (state : State) :
    Forall₂ R items (s.inBatches delayMillis work items state).1 := by
  have numbered : Forall₂ (fun entry result => R entry.1 result) items.zipIdx
      (s.inBatches delayMillis work items state).1 :=
    inOrder_forall _ _ (fun entry before => each entry.1 (s.pace delayMillis entry.2 before))
      items.zipIdx state
  rw [← List.forall₂_map_left_iff (f := Prod.fst), List.zipIdx_map_fst] at numbered
  exact numbered

/-- What holds between the elements of every batch and their results holds throughout. -/
theorem inBatches_flatten {Done : Type} (R : α → β → Prop) (results : Done → List β)
    (s : Services State) (delayMillis size : Nat) (work : List α → State → Done × State)
    (each : ∀ batch state, Forall₂ R batch (results (work batch state).1)) (items : List α)
    (state : State) :
    Forall₂ R items
      ((s.inBatches delayMillis work (batches size items) state).1.flatMap results) := by
  have related := inBatches_forall (fun batch done => Forall₂ R batch (results done)) s delayMillis
    work each (batches size items) state
  rw [← List.forall₂_map_right_iff] at related
  have whole := List.rel_flatten related
  rw [batches_flatten] at whole
  rwa [List.flatMap_def]

end CodeAtlas
