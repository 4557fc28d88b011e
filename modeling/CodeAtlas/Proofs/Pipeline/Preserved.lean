import CodeAtlas.Pipeline.Standard
import CodeAtlas.Proofs.Pipeline.Frame

/-!
What the stages before the last leave as it was in the state of a run: all that the services they
call leave as it was.
-/
namespace CodeAtlas

structure Services.Preserves {State : Type} (s : Services State) (P : State → Prop) : Prop where
  prepare : ∀ items state, P state → P (s.prepare items state)
  dependencies : ∀ item items state, P state → P (s.dependencies item items state).2
  graph : ∀ items state, P state → P (s.graph items state).2
  enrich : ∀ items state, P state → P (s.enrich items state).2
  startVectors : ∀ state, P state → P (s.startVectors state).2
  embed : ∀ texts state, P state → P (s.embed texts state).2
  pause : ∀ millis state, P state → P (s.pause millis state)

theorem inOrder_preserves {State α β : Type} (P : State → Prop) (work : α → State → β × State)
    (each : ∀ a state, P state → P (work a state).2) (items : List α) (state : State)
    (holds : P state) : P (inOrder work items state).2 := by
  induction items generalizing state with
  | nil => exact holds
  | cons a rest ih => exact ih (work a state).2 (each a state holds)

namespace Services.Preserves

variable {State : Type} {s : Services State} {P : State → Prop} (preserves : s.Preserves P)

include preserves

theorem inBatches {α β : Type} (delayMillis : Nat) (work : α → State → β × State)
    (each : ∀ a state, P state → P (work a state).2) (batches : List α) (state : State)
    (holds : P state) : P (s.inBatches delayMillis work batches state).2 := by
  apply inOrder_preserves P _ _ batches.zipIdx state holds
  intro entry before stands
  apply each
  unfold pace
  split
  · exact stands
  · exact preserves.pause delayMillis before stands

theorem linkItems (items : List Item) (state : State) (holds : P state) :
    P (linkItems s items state).state := by
  apply preserves.graph
  apply inOrder_preserves P _ _ items _ (preserves.prepare items state holds)
  intro item before stands
  have after := preserves.dependencies item items before stands
  unfold dependenciesOf
  split <;> rename_i answer <;> rw [answer] at after <;> exact after

theorem describeItems (size delayMillis : Nat) (items : List Item) (state : State)
    (holds : P state) : P (describeItems s size delayMillis items state).state := by
  apply preserves.inBatches delayMillis _ _ _ state holds
  intro batch before stands
  have after := preserves.enrich batch before stands
  unfold describeBatch
  split <;> rename_i answer <;> rw [answer] at after <;> exact after

theorem embedItems (size delayMillis dimension : Nat) (items : List Item) (state : State)
    (holds : P state) : P (embedItems s size delayMillis dimension items state).state := by
  apply preserves.inBatches delayMillis _ _ _ state holds
  intro batch before stands
  exact preserves.embed (batch.map embeddingText) before stands

end Services.Preserves

/-! The dimension of a vectorizer -/

namespace Vectorizer

variable {World : Type} (v : Vectorizer World)

theorem probedDimension_positive {provider : String} {vectors : List Embedding} {dimension : Nat}
    (found : probedDimension provider vectors = .ok dimension) : 0 < dimension := by
  unfold probedDimension at found
  split at found
  · cases found
    exact Nat.succ_pos _
  · cases found

theorem probe_positive (configured : v.configured ≠ some 0) (world : World) {dimension : Nat}
    (found : (v.probe world).1 = .ok dimension) : 0 < dimension := by
  unfold probe at found
  split at found
  · split at found
    · rename_i given
      cases found
      apply Nat.pos_of_ne_zero
      rintro rfl
      exact configured given
    · split at found
      · exact probedDimension_positive found
      · cases found
  · cases found

theorem start_positive (configured : v.configured ≠ some 0) (state : VectorizerState World)
    (fixed : state.dimension ≠ some 0) :
    (v.start state).2.dimension ≠ some 0 ∧
      ∀ dimension, (v.start state).1 = .ok dimension → 0 < dimension := by
  unfold start
  split
  · rename_i dimension stands
    refine ⟨fixed, ?_⟩
    intro other same
    cases same
    apply Nat.pos_of_ne_zero
    rintro rfl
    exact fixed stands
  · split
    · rename_i dimension after probed
      have positive := v.probe_positive configured state.world (congrArg Prod.fst probed)
      refine ⟨?_, ?_⟩
      · intro same
        cases same
        exact Nat.lt_irrefl 0 positive
      · intro other same
        cases same
        exact positive
    · refine ⟨?_, ?_⟩
      · intro same
        cases same
      · intro other same
        cases same

theorem embed_positive (configured : v.configured ≠ some 0) (texts : List String)
    (state : VectorizerState World) (fixed : state.dimension ≠ some 0) :
    (v.embed texts state).2.dimension ≠ some 0 := by
  have started := (v.start_positive configured state fixed).1
  unfold embed
  split
  · rename_i answer
    rw [answer] at started
    exact started
  · rename_i answer
    rw [answer] at started
    split
    · exact started
    · split <;> exact started

end Vectorizer

structure RunState.Steady {World : Type} (files : FileTree) (state : RunState World) : Prop where
  files : state.files = files
  dimension : state.dimension ≠ some 0

theorem standard_preserves {World : Type} (e : Enricher World) (v : Vectorizer World)
    (configured : v.configured ≠ some 0) (path : Path) (wait : Nat → World → World)
    (files : FileTree) : (Services.standard e v path wait).Preserves (RunState.Steady files) where
  prepare _ _ steady := ⟨steady.files, steady.dimension⟩
  dependencies _ _ _ steady := steady
  graph _ _ steady := steady
  enrich _ _ steady := ⟨steady.files, steady.dimension⟩
  startVectors _ steady :=
    ⟨steady.files, (v.start_positive configured _ steady.dimension).1⟩
  embed texts _ steady :=
    ⟨steady.files, v.embed_positive configured texts _ steady.dimension⟩
  pause _ _ steady := ⟨steady.files, steady.dimension⟩

end CodeAtlas
