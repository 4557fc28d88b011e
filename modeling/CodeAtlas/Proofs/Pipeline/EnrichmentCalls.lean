import CodeAtlas.Pipeline.Standard
import CodeAtlas.Proofs.Pipeline.Layers
import CodeAtlas.Proofs.Pipeline.Recording

/-!
The calls that the third stage makes for its descriptions, one for each batch of items, and what the
items get from them. An answer is taken place by place, however long it is; a call that fails only
fills in what its items do not say yet. What one call answers shows in the items of its batch alone.
-/
namespace CodeAtlas

open List (Forall₂)

structure EnrichmentCall where
  items : List Item
  answer : Except ServiceFault (List Enrichment)

namespace EnrichmentCall

def failed (call : EnrichmentCall) : Bool := !call.answer.toBool

def Leaves (call : EnrichmentCall) (place : Nat) (before after : Item) : Prop :=
  match call.answer with
  | .ok enrichments =>
    match enrichments[place]? with
    | some e =>
      after = { before with
        description := some e.description, summary := some e.summary, tags := some e.tags }
    | none =>
      let text := "[enrichment failed] missing from batch response"
      after = { before with description := some text, summary := some text, tags := some [] }
  | .error fault =>
    let text := "[enrichment failed] " ++ fault.message
    after = { before with
      description := some (before.description.getD text)
      summary := some (before.summary.getD text)
      tags := some (before.tags.getD []) }

theorem Leaves.described {call : EnrichmentCall} {place : Nat} {before after : Item}
    (leaves : call.Leaves place before after) : after.Described := by
  unfold Leaves at leaves
  split at leaves
  · split at leaves <;> rw [leaves] <;> exact ⟨rfl, rfl, rfl⟩
  · rw [leaves]
    exact ⟨rfl, rfl, rfl⟩

end EnrichmentCall

section Recording

variable {State : Type}

def Services.recordEnrichments (s : Services State) : Services (State × List EnrichmentCall) :=
  { s.withLog EnrichmentCall with
    enrich := fun items state =>
      let answer := s.enrich items state.1
      (answer.1, answer.2, state.2 ++ [⟨items, answer.1⟩]) }

def Pipeline.recordEnrichments (p : Pipeline State) : Pipeline (State × List EnrichmentCall) :=
  { p with services := p.services.recordEnrichments }

def Pipeline.enrichmentCalls (p : Pipeline State) (results : StageResults) (state : State) :
    List EnrichmentCall :=
  (p.recordEnrichments.runStage .enrichment results (state, [])).state.2

end Recording

/-! What one batch gets from its call -/

def describeWith (batch : List Item) : Except ServiceFault (List Enrichment) → DescribedBatch
  | .ok enrichments => ⟨applyAll enrichments batch, false⟩
  | .error fault => ⟨batch.map (Enrichment.failed fault.message).fillMissing, true⟩

theorem applyAll_get (enrichments : List Enrichment) (items : List Item) (place : Nat) :
    (applyAll enrichments items)[place]? =
      items[place]?.map (enrichments[place]?.getD missingReply).apply := by
  induction items generalizing enrichments place with
  | nil => cases enrichments <;> rfl
  | cons item rest ih =>
    cases enrichments with
    | nil =>
      cases place with
      | zero => rfl
      | succ place =>
        rw [applyAll, List.getElem?_cons_succ, List.getElem?_cons_succ, ih]
        rfl
    | cons e es =>
      cases place with
      | zero => rfl
      | succ place => rw [applyAll, List.getElem?_cons_succ, List.getElem?_cons_succ, ih]; rfl

def DescribedBy (batch : List Item) (done : DescribedBatch × EnrichmentCall) : Prop :=
  done.2.items = batch ∧ done.1 = describeWith batch done.2.answer

namespace DescribedBy

variable {batch : List Item} {done : DescribedBatch × EnrichmentCall}

theorem failed_eq (described : DescribedBy batch done) : done.1.failed = done.2.failed := by
  rw [described.2, EnrichmentCall.failed]
  cases done.2.answer <;> rfl

theorem items_length (described : DescribedBy batch done) :
    done.1.items.length = batch.length := by
  rw [described.2]
  cases done.2.answer with
  | ok enrichments => exact (applyAll_describes enrichments batch).length_eq.symm
  | error fault => exact List.length_map _

theorem item_get (described : DescribedBy batch done) {place : Nat} {item : Item}
    (inside : batch[place]? = some item) :
    ∃ after, done.2.Leaves place item after ∧ done.1.items[place]? = some after := by
  rw [described.2]
  unfold EnrichmentCall.Leaves
  cases done.2.answer with
  | ok enrichments =>
    refine ⟨(enrichments[place]?.getD missingReply).apply item, ?_, ?_⟩
    · cases given : enrichments[place]? with
      | none =>
        simp only [given]
        rfl
      | some e =>
        simp only [given]
        rfl
    · rw [describeWith, applyAll_get, inside, Option.map_some]
  | error fault =>
    refine ⟨(Enrichment.failed fault.message).fillMissing item, rfl, ?_⟩
    rw [describeWith, List.getElem?_map, inside, Option.map_some]

theorem determined {other : DescribedBatch × EnrichmentCall} (described : DescribedBy batch done)
    (describedOther : DescribedBy batch other) (same : done.2 = other.2) : done.1 = other.1 := by
  rw [described.2, describedOther.2, same]

end DescribedBy

/-! What the whole stage gets from its calls -/

section Stage

variable {State : Type}

theorem describeBatch_eq (s : Services State) (batch : List Item) (state : State) :
    describeBatch s batch state =
      (describeWith batch (s.enrich batch state).1, (s.enrich batch state).2) := by
  unfold describeBatch
  split
  · rename_i answered
    rw [answered]
    rfl
  · rename_i answered
    rw [answered]
    rfl

theorem describeBatch_recorded (s : Services State) (batch : List Item) (state : State)
    (log : List EnrichmentCall) :
    ∃ call, DescribedBy batch ((describeBatch s batch state).1, call) ∧
      describeBatch s.recordEnrichments batch (state, log) =
        ((describeBatch s batch state).1, (describeBatch s batch state).2, log ++ [call]) := by
  rw [describeBatch_eq, describeBatch_eq]
  exact ⟨⟨batch, (s.enrich batch state).1⟩, ⟨rfl, rfl⟩, rfl⟩

variable {cut : List (List Item)} {done : List (DescribedBatch × EnrichmentCall)}

theorem failed_of_described (described : Forall₂ DescribedBy cut done) :
    ((done.map Prod.fst).filter DescribedBatch.failed).length =
      ((done.map Prod.snd).filter EnrichmentCall.failed).length := by
  induction described with
  | nil => rfl
  | cons first _ ih =>
    rw [List.map_cons, List.map_cons, List.filter_cons, List.filter_cons, first.failed_eq]
    split
    · rw [List.length_cons, List.length_cons, ih]
    · exact ih

def DescribedItems.ofCalls (count : Nat) (done : List (DescribedBatch × EnrichmentCall))
    (finishedAt : Timestamp) : DescribedItems :=
  let described := (done.map Prod.fst).flatMap DescribedBatch.items
  { items := some described
    stats := ⟨count, done.length, ((done.map Prod.snd).filter EnrichmentCall.failed).length,
      (described.filter isDegraded).length⟩
    finishedAt := finishedAt }

theorem describeItems_recorded (s : Services State) (size delayMillis : Nat) (items : List Item)
    (state : State) (log : List EnrichmentCall) :
    ∃ done, Forall₂ DescribedBy (batches size items) done ∧
      let plain := describeItems s size delayMillis items state
      plain.outcome = .ok (.ofCalls items.length done (s.now plain.state)) ∧
      describeItems s.recordEnrichments size delayMillis items (state, log) =
        ⟨plain.outcome, plain.events, plain.state, log ++ done.map Prod.snd⟩ := by
  obtain ⟨done, described, plain, recorded⟩ :=
    inBatches_recorded (R := DescribedBy) (describeBatch s) (describeBatch s.recordEnrichments) s
      s.recordEnrichments (fun _ _ _ => rfl) (describeBatch_recorded s) delayMillis
      (batches size items) state log
  refine ⟨done, described, ?_, ?_⟩
  · simp only [describeItems, plain, DescribedItems.ofCalls, failed_of_described described,
      List.length_map]
  · simp only [describeItems, recorded, plain]
    rfl

end Stage

namespace Pipeline

variable {State : Type} (p : Pipeline State) (results : StageResults) (state : State)

theorem runEnrichment_recorded {items : List Item}
    (held : results.heldItems? .dependencies = some items) :
    ∃ done, Forall₂ DescribedBy (batches p.settings.enrichmentBatchSize items) done ∧
      let step := p.runStage .enrichment results state
      step.outcome = .ok () ∧
      step.results.described =
        some (.ofCalls items.length done (p.services.now step.state)) ∧
      p.recordEnrichments.runStage .enrichment results (state, []) =
        ⟨step.outcome, step.results, step.events, step.state, done.map Prod.snd⟩ := by
  obtain ⟨done, described, made, recorded⟩ := describeItems_recorded p.services
    p.settings.enrichmentBatchSize p.settings.enrichmentDelayMillis items state []
  have step := p.runEnrichment_of_held results state items held
  rw [StageRun.store_of_ok _ _ _ _ made] at step
  have logged := p.recordEnrichments.runEnrichment_of_held results (state, []) items held
  refine ⟨done, described, ?_⟩
  rw [runStage, runStage, step]
  refine ⟨rfl, rfl, ?_⟩
  rw [logged]
  unfold recordEnrichments
  dsimp only
  rw [recorded, made]
  rfl

/-- The stage sends the items of one batch after the other. Each item is described by what stands at
its place in its own batch's answer, or by why nothing does, whatever the other calls answered. -/
theorem each_batch_described_by_its_call {items : List Item}
    (held : results.heldItems? .dependencies = some items) :
    let size := max p.settings.enrichmentBatchSize 1
    let step := p.runStage .enrichment results state
    let calls := p.enrichmentCalls results state
    p.recordEnrichments.runStage .enrichment results (state, []) =
        ⟨step.outcome, step.results, step.events, step.state, calls⟩ ∧
      calls.map EnrichmentCall.items = (List.range (items.length ⌈/⌉ size)).map (fun k =>
        (items.drop (k * size)).take size) ∧
      step.outcome = .ok () ∧
      ∃ output described, step.results.described = some output ∧ output.items = some described ∧
        output.stats.batches = calls.length ∧
        output.stats.failedBatches = (calls.filter EnrichmentCall.failed).length ∧
        described.length = items.length ∧
        (∀ i item, items[i]? = some item → ∃ call after, calls[i / size]? = some call ∧
          described[i]? = some after ∧ call.Leaves (i % size) item after ∧ after.Described) ∧
        ∀ (q : Pipeline State) (other : State),
          q.settings.enrichmentBatchSize = p.settings.enrichmentBatchSize →
          ∀ k, (∀ m ≠ k, (q.enrichmentCalls results other)[m]? = calls[m]?) →
          ∃ otherwise,
            (q.runStage .enrichment results other).results.heldItems? .enrichment =
              some otherwise ∧
            ∀ i, i / size ≠ k → otherwise[i]? = described[i]? := by
  intro size step calls
  obtain ⟨done, described, succeeds, made, recorded⟩ :=
    p.runEnrichment_recorded results state held
  have logged : calls = done.map Prod.snd := congrArg (fun step => step.state.2) recorded
  refine ⟨logged ▸ recorded, ?_, succeeds, _, _, made, rfl, ?_, ?_,
    flatMap_length_of_entries _ DescribedBy.items_length described, ?_, ?_⟩
  · have sent : (done.map Prod.snd).map EnrichmentCall.items =
        (batches p.settings.enrichmentBatchSize items).map id := by
      rw [List.map_map]
      exact map_eq_of_forall described fun _ _ own => own.1
    rw [logged, sent, List.map_id, batches_eq_map_range]
  · rw [logged, List.length_map]
    rfl
  · rw [logged]
    rfl
  · intro i item inside
    rw [logged]
    obtain ⟨call, after, asked, leaves, becomes⟩ :=
      flatMap_get_of_entries DescribedBatch.items DescribedBy.items_length described
        EnrichmentCall.Leaves (fun described => described.item_get) inside
    exact ⟨call, after, asked, becomes, leaves, leaves.described⟩
  · -- Calls that agree describe their items alike, so the runs may differ in batch `k` only.
    intro q other same k agree
    obtain ⟨doneOther, describedOther, -, madeOther, recordedOther⟩ :=
      q.runEnrichment_recorded results other held
    have loggedOther : q.enrichmentCalls results other = doneOther.map Prod.snd :=
      congrArg (fun step => step.state.2) recordedOther
    rw [same] at describedOther
    rw [logged, loggedOther] at agree
    refine ⟨_, by rw [StageResults.heldItems?, StageResults.output?, madeOther]; rfl, ?_⟩
    intro i apart
    exact flatMap_agree_of_entries _ DescribedBy.items_length describedOther DescribedBy.determined
      described (agree _ apart)

theorem failed_call_keeps_what_is_said :
    let item (id : String) (description : Option String) : Item :=
      { id := id, kind := .function, name := "f", language := .go, filePath := "main.go",
        code := "func f()", description := description }
    let first := [item "a" (some "old"), item "b" (some "old")]
    let second := [item "c" (some "kept"), item "d" none]
    let silent : Provider Unit := ⟨"silent", false, fun _ world => (.error .rateLimited, world),
      fun _ world => (.error .rateLimited, world)⟩
    let services : Services (RunState Unit) :=
      { Services.standard ⟨silent, 0⟩ ⟨silent, none⟩ (.ofString ".strata/index.json")
          (fun _ world => world) with
        enrich := fun items state =>
          (if items.any fun item => item.id == "a" then .ok [⟨"new", "", ["tag"]⟩]
           else .error (.other "down"), state) }
    let p : Pipeline (RunState Unit) :=
      ⟨{ root := .ofString "." }, fun _ _ => none, { enrichmentBatchSize := 2 }, services⟩
    let state : RunState Unit := { world := (), files := {}, time := ⟨0, 0⟩ }
    let results : StageResults := { linked := some ⟨some (first ++ second), ⟨[], []⟩, {}, ⟨0, 0⟩⟩ }
    let step := p.runStage .enrichment results state
    results.heldItems? .dependencies = some (first ++ second) ∧
      ∃ output described, step.results.described = some output ∧ output.items = some described ∧
        output.stats.failedBatches = 1 ∧
        described.map Item.description = [some "new",
          some "[enrichment failed] missing from batch response", some "kept",
          some "[enrichment failed] down"] ∧
        described.map Item.tags = [some ["tag"], some [], some [], some []] := by
  intro item first second silent services p state results step
  have held : results.heldItems? .dependencies = some (first ++ second) := rfl
  obtain ⟨-, -, -, output, described, made, lies, -, failed, -⟩ :=
    p.each_batch_described_by_its_call results state held
  have items : step.results.described.bind DescribedItems.items = some described := by
    rw [made]
    exact lies
  have said : (step.results.described.bind DescribedItems.items).map (List.map Item.description) =
      some [some "new", some "[enrichment failed] missing from batch response", some "kept",
        some "[enrichment failed] down"] := by decide +kernel
  have tagged : (step.results.described.bind DescribedItems.items).map (List.map Item.tags) =
      some [some ["tag"], some [], some [], some []] := by decide +kernel
  rw [items] at said tagged
  exact ⟨held, output, described, made, lies, failed.trans (by decide +kernel),
    Option.some.inj said, Option.some.inj tagged⟩

end Pipeline
end CodeAtlas
