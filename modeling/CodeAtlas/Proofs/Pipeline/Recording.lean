import CodeAtlas.Pipeline.Run
import CodeAtlas.Proofs.Pipeline.Batches

/-!
Calls of the services, written down as they are made. Services that keep a log answer as they do
without one, so a run with a log is the run without it, and the log tells what was asked and
answered on the way.
-/
namespace CodeAtlas

open List (Forall₂)

variable {State Entry : Type}

def besideLog {α : Type} (call : State → α × State) (state : State × List Entry) :
    α × (State × List Entry) :=
  ((call state.1).1, (call state.1).2, state.2)

namespace Services

def withLog (s : Services State) (Entry : Type) : Services (State × List Entry) where
  now state := s.now state.1
  files state := s.files state.1
  prepare items state := (s.prepare items state.1, state.2)
  dependencies item items := besideLog (s.dependencies item items)
  graph items := besideLog (s.graph items)
  enrich items := besideLog (s.enrich items)
  startVectors := besideLog s.startVectors
  embed texts := besideLog (s.embed texts)
  startIndex dimension := besideLog (s.startIndex dimension)
  addVectors start vectors := besideLog (s.addVectors start vectors)
  optimizeIndex := besideLog s.optimizeIndex
  saveIndex := besideLog s.saveIndex
  writeText path text := besideLog (s.writeText path text)
  pause millis state := (s.pause millis state.1, state.2)

end Services

/-! Work that is written down makes one entry for each element -/

section Entries

variable {α β : Type} {R : α → β × Entry → Prop} (work : α → State → β × State)
  (recording : α → State × List Entry → β × (State × List Entry))

theorem inOrder_recorded
    (each : ∀ a state log, ∃ entry, R a ((work a state).1, entry) ∧
      recording a (state, log) = ((work a state).1, (work a state).2, log ++ [entry]))
    (items : List α) (state : State) (log : List Entry) :
    ∃ done : List (β × Entry), Forall₂ R items done ∧
      (inOrder work items state).1 = done.map Prod.fst ∧
      inOrder recording items (state, log) =
        (done.map Prod.fst, (inOrder work items state).2, log ++ done.map Prod.snd) := by
  induction items generalizing state log with
  | nil => exact ⟨[], .nil, rfl, by rw [List.map_nil, List.map_nil, List.append_nil]; rfl⟩
  | cons a rest ih =>
    obtain ⟨entry, related, first⟩ := each a state log
    obtain ⟨done, others, plain, recorded⟩ := ih (work a state).2 (log ++ [entry])
    refine ⟨((work a state).1, entry) :: done, .cons related others, ?_, ?_⟩
    · rw [inOrder, plain, List.map_cons]
    · rw [inOrder, first, recorded, inOrder, List.map_cons, List.map_cons, List.append_assoc,
        List.singleton_append]

theorem inBatches_recorded (s : Services State) (r : Services (State × List Entry))
    (pauses : ∀ millis state log, r.pause millis (state, log) = (s.pause millis state, log))
    (each : ∀ a state log, ∃ entry, R a ((work a state).1, entry) ∧
      recording a (state, log) = ((work a state).1, (work a state).2, log ++ [entry]))
    (delayMillis : Nat) (items : List α) (state : State) (log : List Entry) :
    ∃ done : List (β × Entry), Forall₂ R items done ∧
      (s.inBatches delayMillis work items state).1 = done.map Prod.fst ∧
      r.inBatches delayMillis recording items (state, log) =
        (done.map Prod.fst, (s.inBatches delayMillis work items state).2,
          log ++ done.map Prod.snd) := by
  have paced : ∀ batch state log,
      r.pace delayMillis batch (state, log) = (s.pace delayMillis batch state, log) := by
    intro batch state log
    unfold Services.pace
    split
    · rfl
    · exact pauses delayMillis state log
  obtain ⟨done, related, plain, recorded⟩ :=
    inOrder_recorded (R := fun entry result => R entry.1 result)
      (fun entry before => work entry.1 (s.pace delayMillis entry.2 before))
      (fun entry before => recording entry.1 (r.pace delayMillis entry.2 before))
      (fun entry state log => by rw [paced]; exact each entry.1 _ log) items.zipIdx state log
  refine ⟨done, ?_, plain, recorded⟩
  rwa [← List.forall₂_map_left_iff (f := Prod.fst), List.zipIdx_map_fst] at related

end Entries

/-! Results that batches have from their entries, seen from single elements -/

section Results

variable {α β γ : Type} {R : List α → β × Entry → Prop} (results : β → List γ)
  (lengths : ∀ {batch done}, R batch done → (results done.1).length = batch.length)
  {size : Nat} {items : List α} {done : List (β × Entry)}
  (related : Forall₂ R (batches size items) done)

include lengths related

theorem flatMap_length_of_entries :
    ((done.map Prod.fst).flatMap results).length = items.length := by
  rw [List.flatMap_map]
  exact flatMap_length_of_batches (fun entry => results entry.1) lengths related

/-- What stands between an element of a batch and its result in view of the batch's entry, stands
between every element and its result. -/
theorem flatMap_get_of_entries (Q : Entry → Nat → α → γ → Prop)
    (each : ∀ {batch done place a}, R batch done → batch[place]? = some a →
      ∃ c, Q done.2 place a c ∧ (results done.1)[place]? = some c)
    {i : Nat} {a : α} (inside : items[i]? = some a) :
    ∃ entry c, (done.map Prod.snd)[i / max size 1]? = some entry ∧
      Q entry (i % max size 1) a c ∧ ((done.map Prod.fst).flatMap results)[i]? = some c := by
  obtain ⟨batch, result, own, found, lies, becomes⟩ :=
    flatMap_get_of_batches (fun entry => results entry.1) lengths related inside
  obtain ⟨c, stands, settles⟩ := each own lies
  refine ⟨result.2, c, ?_, stands, ?_⟩
  · rw [List.getElem?_map, found, Option.map_some]
  · rw [List.flatMap_map, becomes, settles]

/-- Where entries determine results, two runs whose entries agree on the batch of an element have
the same result for it. -/
theorem flatMap_agree_of_entries
    (determined : ∀ {batch first second}, R batch first → R batch second → first.2 = second.2 →
      first.1 = second.1)
    {other : List (β × Entry)} (relatedOther : Forall₂ R (batches size items) other) {i : Nat}
    (agree : (done.map Prod.snd)[i / max size 1]? = (other.map Prod.snd)[i / max size 1]?) :
    ((done.map Prod.fst).flatMap results)[i]? = ((other.map Prod.fst).flatMap results)[i]? := by
  have located : ∀ {entries : List (β × Entry)}, Forall₂ R (batches size items) entries →
      ((entries.map Prod.fst).flatMap results)[i]? =
        (entries[i / max size 1]?.map fun entry => results entry.1).bind fun result =>
          result[i % max size 1]? := by
    intro entries related
    rw [List.flatMap_map, List.flatMap_def, flatten_get_of_batches size items, List.getElem?_map]
    rw [List.forall₂_map_right_iff]
    exact related.imp fun _ _ => lengths
  rw [located related, located relatedOther]
  rw [List.getElem?_map, List.getElem?_map] at agree
  congr 1
  cases here : done[i / max size 1]? with
  | none =>
    rw [here, Option.map_none, eq_comm, Option.map_eq_none_iff] at agree
    rw [agree, Option.map_none]
  | some entry =>
    rw [here, Option.map_some, eq_comm, Option.map_eq_some_iff] at agree
    obtain ⟨there, found, same⟩ := agree
    obtain ⟨inDone, rfl⟩ := List.getElem?_eq_some_iff.mp here
    obtain ⟨inOther, rfl⟩ := List.getElem?_eq_some_iff.mp found
    have among : i / max size 1 < (batches size items).length := related.length_eq ▸ inDone
    have equal := determined (related.get among inDone) (relatedOther.get among inOther) same.symm
    rw [found, Option.map_some, Option.map_some]
    exact congrArg (fun b => some (results b)) equal

end Results
end CodeAtlas
