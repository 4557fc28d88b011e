import CodeAtlas.Pipeline.Standard
import CodeAtlas.Proofs.Pipeline.Layers
import CodeAtlas.Proofs.Pipeline.Recording

/-!
The calls that the fourth stage makes for its vectors, one for each batch of texts, and what the
items get from them. An answer that does not have a vector of the dimension for each text counts for
nothing, and what one call answers shows in the items of its batch alone.
-/
namespace CodeAtlas

open List (Forall₂)

structure EmbeddingCall where
  texts : List String
  answer : Except ServiceFault (List Embedding)

namespace EmbeddingCall

variable (dimension : Nat) (call : EmbeddingCall)

def vectors? : Option (List Embedding) :=
  match call.answer with
  | .ok vectors =>
    if vectors.length = call.texts.length ∧ ∀ v ∈ vectors, v.length = dimension then some vectors
    else none
  | .error _ => none

def rejected : Bool := (call.vectors? dimension).isNone

def Leaves (place : Nat) (before after : Item) : Prop :=
  match call.vectors? dimension with
  | some vectors =>
    ∃ vector, vectors[place]? = some vector ∧ after = { before with vector := some vector }
  | none => after = { before with vector := some (List.replicate dimension 0) }

variable {dimension call}

theorem vectors_eq_some_iff {vectors : List Embedding} :
    call.vectors? dimension = some vectors ↔ call.answer = .ok vectors ∧
      vectors.length = call.texts.length ∧ ∀ v ∈ vectors, v.length = dimension := by
  unfold vectors?
  cases call.answer with
  | error fault => simp
  | ok given =>
    simp only [Option.ite_none_right_eq_some, Option.some.injEq, Except.ok.injEq]
    constructor
    · rintro ⟨fit, rfl⟩
      exact ⟨rfl, fit⟩
    · rintro ⟨rfl, fit⟩
      exact ⟨fit, rfl⟩

end EmbeddingCall

section Recording

variable {State : Type}

def Services.recordEmbeddings (s : Services State) : Services (State × List EmbeddingCall) :=
  { s.withLog EmbeddingCall with
    embed := fun texts state =>
      let answer := s.embed texts state.1
      (answer.1, answer.2, state.2 ++ [⟨texts, answer.1⟩]) }

def Pipeline.recordEmbeddings (p : Pipeline State) : Pipeline (State × List EmbeddingCall) :=
  { p with services := p.services.recordEmbeddings }

def Pipeline.embeddingCalls (p : Pipeline State) (results : StageResults) (state : State) :
    List EmbeddingCall :=
  (p.recordEmbeddings.runStage .vectorization results (state, [])).state.2

end Recording

/-! What one batch gets from its call -/

def SettledBy (dimension : Nat) (batch : List Item) (done : EmbeddedBatch × EmbeddingCall) : Prop :=
  done.2.texts = batch.map embeddingText ∧ done.1 = settle dimension batch done.2.answer

namespace SettledBy

variable {dimension : Nat} {batch : List Item} {done : EmbeddedBatch × EmbeddingCall}

theorem fits_iff (settled : SettledBy dimension batch done) :
    fits dimension batch.length done.2.answer = true ↔
      ∃ vectors, done.2.vectors? dimension = some vectors := by
  have count : done.2.texts.length = batch.length := by rw [settled.1, List.length_map]
  simp only [EmbeddingCall.vectors_eq_some_iff, count]
  cases done.2.answer with
  | error fault => simp [fits]
  | ok given => simp [fits]

theorem eq_of_vectors (settled : SettledBy dimension batch done) {vectors : List Embedding}
    (given : done.2.vectors? dimension = some vectors) :
    done.1 = ⟨List.zipWith setVector batch vectors, false⟩ := by
  have answer := (EmbeddingCall.vectors_eq_some_iff.mp given).1
  have fit := settled.fits_iff.mpr ⟨vectors, given⟩
  rw [settled.2, settle, if_pos fit, answer]
  rfl

theorem eq_of_rejected (settled : SettledBy dimension batch done)
    (given : done.2.vectors? dimension = none) :
    done.1 = ⟨batch.map fun item => setVector item (zeroVector dimension), true⟩ := by
  have misfit : ¬ fits dimension batch.length done.2.answer = true := by
    rw [settled.fits_iff, given]
    exact fun ⟨_, absurd⟩ => nomatch absurd
  rw [settled.2, settle, if_neg misfit]

theorem failed_eq (settled : SettledBy dimension batch done) :
    done.1.failed = done.2.rejected dimension := by
  unfold EmbeddingCall.rejected
  cases given : done.2.vectors? dimension with
  | none =>
    rw [settled.eq_of_rejected given]
    rfl
  | some vectors =>
    rw [settled.eq_of_vectors given]
    rfl

theorem items_length (settled : SettledBy dimension batch done) :
    done.1.items.length = batch.length := by
  rw [settled.2]
  exact (settle_embeds dimension batch done.2.answer).length_eq.symm

theorem item_get (settled : SettledBy dimension batch done) {place : Nat} {item : Item}
    (inside : batch[place]? = some item) :
    ∃ after, done.2.Leaves dimension place item after ∧ done.1.items[place]? = some after := by
  unfold EmbeddingCall.Leaves
  cases given : done.2.vectors? dimension with
  | none =>
    refine ⟨setVector item (zeroVector dimension), rfl, ?_⟩
    rw [settled.eq_of_rejected given, List.getElem?_map, inside, Option.map_some]
  | some vectors =>
    have enough : place < vectors.length := by
      rw [(EmbeddingCall.vectors_eq_some_iff.mp given).2.1, settled.1, List.length_map]
      exact (List.getElem?_eq_some_iff.mp inside).1
    refine ⟨setVector item vectors[place], ⟨_, List.getElem?_eq_getElem enough, rfl⟩, ?_⟩
    rw [settled.eq_of_vectors given, List.getElem?_zipWith, inside,
      List.getElem?_eq_getElem enough]

theorem determined {other : EmbeddedBatch × EmbeddingCall}
    (settled : SettledBy dimension batch done) (settledOther : SettledBy dimension batch other)
    (same : done.2 = other.2) : done.1 = other.1 := by
  rw [settled.2, settledOther.2, same]

end SettledBy

/-! What the whole stage gets from its calls -/

section Stage

variable {State : Type}

theorem embedBatch_recorded (s : Services State) (dimension : Nat) (batch : List Item)
    (state : State) (log : List EmbeddingCall) :
    ∃ call, SettledBy dimension batch ((embedBatch s dimension batch state).1, call) ∧
      embedBatch s.recordEmbeddings dimension batch (state, log) =
        ((embedBatch s dimension batch state).1, (embedBatch s dimension batch state).2,
          log ++ [call]) :=
  ⟨⟨batch.map embeddingText, (s.embed (batch.map embeddingText) state).1⟩, ⟨rfl, rfl⟩, rfl⟩

variable {dimension : Nat} {cut : List (List Item)} {done : List (EmbeddedBatch × EmbeddingCall)}

theorem failed_of_settled (settled : Forall₂ (SettledBy dimension) cut done) :
    ((done.map Prod.fst).filter EmbeddedBatch.failed).map (fun batch => batch.items.length) =
      ((done.map Prod.snd).filter (EmbeddingCall.rejected dimension)).map
        fun call => call.texts.length := by
  induction settled with
  | nil => rfl
  | @cons batch first _ others settled _ ih =>
    have count : first.1.items.length = first.2.texts.length := by
      rw [settled.items_length, settled.1, List.length_map]
    rw [List.map_cons, List.map_cons, List.filter_cons, List.filter_cons, settled.failed_eq]
    split
    · rw [List.map_cons, List.map_cons, ih, count]
    · exact ih

def EmbeddedItems.ofCalls (dimension count : Nat) (done : List (EmbeddedBatch × EmbeddingCall))
    (finishedAt : Timestamp) : EmbeddedItems :=
  let rejected := (done.map Prod.snd).filter (EmbeddingCall.rejected dimension)
  { items := some ((done.map Prod.fst).flatMap EmbeddedBatch.items)
    dimension := dimension
    stats := ⟨count, dimension, done.length, rejected.length,
      (rejected.map fun call => call.texts.length).sum⟩
    finishedAt := finishedAt }

theorem embedItems_recorded (s : Services State) (size delayMillis dimension : Nat)
    (items : List Item) (state : State) (log : List EmbeddingCall) :
    ∃ done, Forall₂ (SettledBy dimension) (batches size items) done ∧
      let plain := embedItems s size delayMillis dimension items state
      plain.outcome = .ok (.ofCalls dimension items.length done (s.now plain.state)) ∧
      embedItems s.recordEmbeddings size delayMillis dimension items (state, log) =
        ⟨plain.outcome, plain.events, plain.state, log ++ done.map Prod.snd⟩ := by
  obtain ⟨done, settled, plain, recorded⟩ :=
    inBatches_recorded (R := SettledBy dimension) (embedBatch s dimension)
      (embedBatch s.recordEmbeddings dimension) s s.recordEmbeddings (fun _ _ _ => rfl)
      (embedBatch_recorded s dimension) delayMillis (batches size items) state log
  have rejections := failed_of_settled settled
  refine ⟨done, settled, ?_, ?_⟩
  · have failures := congrArg List.length rejections
    rw [List.length_map, List.length_map] at failures
    simp only [embedItems, plain, EmbeddedItems.ofCalls, List.length_flatMap, List.length_map,
      rejections, failures]
  · simp only [embedItems, recorded, plain]
    rfl

end Stage

namespace Pipeline

variable {State : Type} (p : Pipeline State) (results : StageResults) (state : State)

theorem runVectorization_recorded {items : List Item} {dimension : Nat}
    (held : results.heldItems? .enrichment = some items)
    (started : (p.services.startVectors state).1 = .ok dimension) :
    ∃ done, Forall₂ (SettledBy dimension) (batches p.settings.vectorizationBatchSize items) done ∧
      let step := p.runStage .vectorization results state
      step.outcome = .ok () ∧
      step.results.embedded =
        some (.ofCalls dimension items.length done (p.services.now step.state)) ∧
      p.recordEmbeddings.runStage .vectorization results (state, []) =
        ⟨step.outcome, step.results, step.events, step.state, done.map Prod.snd⟩ := by
  have plainly : p.services.startVectors state =
      (.ok dimension, (p.services.startVectors state).2) := Prod.ext started rfl
  have noted : p.recordEmbeddings.services.startVectors (state, []) =
      (.ok dimension, (p.services.startVectors state).2, []) :=
    Prod.ext started rfl
  obtain ⟨done, settled, made, recorded⟩ := embedItems_recorded p.services
    p.settings.vectorizationBatchSize p.settings.vectorizationDelayMillis dimension items
    (p.services.startVectors state).2 []
  have step := p.runVectorization_of_held results state items held _ _ plainly
  rw [StageRun.store_of_ok _ _ _ _ made] at step
  have logged := p.recordEmbeddings.runVectorization_of_held results _ items held _ _ noted
  refine ⟨done, settled, ?_⟩
  rw [runStage, runStage, step]
  refine ⟨rfl, rfl, ?_⟩
  rw [logged]
  unfold recordEmbeddings
  dsimp only
  rw [recorded, made]
  rfl

/-- The stage sends the texts of one batch after the other. Each item gets the vector at its place
in its own batch's answer, or a zero vector when that answer was rejected, whatever the other calls
answered. -/
theorem each_batch_embedded_by_its_call {items : List Item} {dimension : Nat}
    (held : results.heldItems? .enrichment = some items)
    (started : (p.services.startVectors state).1 = .ok dimension) :
    let size := max p.settings.vectorizationBatchSize 1
    let step := p.runStage .vectorization results state
    let calls := p.embeddingCalls results state
    let rejected := calls.filter (EmbeddingCall.rejected dimension)
    p.recordEmbeddings.runStage .vectorization results (state, []) =
        ⟨step.outcome, step.results, step.events, step.state, calls⟩ ∧
      calls.map EmbeddingCall.texts = (List.range (items.length ⌈/⌉ size)).map (fun k =>
        ((items.drop (k * size)).take size).map embeddingText) ∧
      step.outcome = .ok () ∧
      ∃ output embedded, step.results.embedded = some output ∧ output.items = some embedded ∧
        output.dimension = dimension ∧
        output.stats = ⟨items.length, dimension, calls.length, rejected.length,
          (rejected.map fun call => call.texts.length).sum⟩ ∧
        embedded.length = items.length ∧
        (∀ i item, items[i]? = some item → ∃ call after, calls[i / size]? = some call ∧
          embedded[i]? = some after ∧ call.Leaves dimension (i % size) item after) ∧
        ∀ (q : Pipeline State) (other : State),
          q.settings.vectorizationBatchSize = p.settings.vectorizationBatchSize →
          (q.services.startVectors other).1 = .ok dimension →
          ∀ k, (∀ m ≠ k, (q.embeddingCalls results other)[m]? = calls[m]?) →
          ∃ otherwise,
            (q.runStage .vectorization results other).results.heldItems? .vectorization =
              some otherwise ∧
            ∀ i, i / size ≠ k → otherwise[i]? = embedded[i]? := by
  intro size step calls rejected
  obtain ⟨done, settled, succeeds, made, recorded⟩ :=
    p.runVectorization_recorded results state held started
  have logged : calls = done.map Prod.snd := congrArg (fun step => step.state.2) recorded
  refine ⟨logged ▸ recorded, ?_, succeeds, _, _, made, rfl, rfl, ?_,
    flatMap_length_of_entries _ SettledBy.items_length settled, ?_, ?_⟩
  · have sent : (done.map Prod.snd).map EmbeddingCall.texts =
        (batches p.settings.vectorizationBatchSize items).map (List.map embeddingText) := by
      rw [List.map_map]
      exact map_eq_of_forall settled fun _ _ own => own.1
    rw [logged, sent, batches_eq_map_range, List.map_map]
    rfl
  · simp only [EmbeddedItems.ofCalls, rejected, logged, List.length_map]
  · intro i item inside
    rw [logged]
    obtain ⟨call, after, asked, leaves, becomes⟩ :=
      flatMap_get_of_entries EmbeddedBatch.items SettledBy.items_length settled
        (EmbeddingCall.Leaves dimension) (fun settled => settled.item_get) inside
    exact ⟨call, after, asked, becomes, leaves⟩
  · -- Calls that agree settle their items alike, so the runs may differ in batch `k` only.
    intro q other same startedOther k agree
    obtain ⟨doneOther, settledOther, -, madeOther, recordedOther⟩ :=
      q.runVectorization_recorded results other held startedOther
    have loggedOther : q.embeddingCalls results other = doneOther.map Prod.snd :=
      congrArg (fun step => step.state.2) recordedOther
    rw [same] at settledOther
    rw [logged, loggedOther] at agree
    refine ⟨_, by rw [StageResults.heldItems?, StageResults.output?, madeOther]; rfl, ?_⟩
    intro i apart
    exact flatMap_agree_of_entries _ SettledBy.items_length settledOther SettledBy.determined
      settled (agree _ apart)

theorem short_answer_is_rejected_whole :
    let item (id : String) : Item :=
      { id := id, kind := .function, name := "f", language := .go, filePath := "main.go",
        code := "func f()" }
    let silent : Provider Unit := ⟨"silent", true, fun _ world => (.error .rateLimited, world),
      fun _ world => (.error .rateLimited, world)⟩
    let services : Services (RunState Unit) :=
      { Services.standard ⟨silent, 0⟩ ⟨silent, some 1⟩ (.ofString ".strata/index.json")
          (fun _ world => world) with
        embed := fun _ state => (.ok [[1]], state) }
    let p : Pipeline (RunState Unit) :=
      ⟨{ root := .ofString "." }, fun _ _ => none, { vectorizationBatchSize := 2 }, services⟩
    let state : RunState Unit := { world := (), files := {}, time := ⟨0, 0⟩ }
    let results : StageResults :=
      { described := some ⟨some [item "a", item "b", item "c"], {}, ⟨0, 0⟩⟩ }
    let step := p.runStage .vectorization results state
    results.heldItems? .enrichment = some [item "a", item "b", item "c"] ∧
      (p.services.startVectors state).1 = .ok 1 ∧
      ∃ output, step.results.embedded = some output ∧ output.stats = ⟨3, 1, 2, 1, 2⟩ ∧
        output.items = some [setVector (item "a") [0], setVector (item "b") [0],
          setVector (item "c") [1]] := by
  intro item silent services p state results step
  have held : results.heldItems? .enrichment = some [item "a", item "b", item "c"] := rfl
  have started : (p.services.startVectors state).1 = .ok 1 := rfl
  obtain ⟨-, -, -, output, embedded, made, lies, -, stats, -⟩ :=
    p.each_batch_embedded_by_its_call results state held started
  refine ⟨held, started, output, made, stats.trans ?_, ?_⟩
  · decide +kernel
  · have settled : step.results.embedded.bind EmbeddedItems.items =
        some [setVector (item "a") [0], setVector (item "b") [0], setVector (item "c") [1]] := by
      decide +kernel
    rw [made] at settled
    exact settled

end Pipeline
end CodeAtlas
