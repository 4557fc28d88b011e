import CodeAtlas.Proofs.Pipeline.Frame
import CodeAtlas.Proofs.Pipeline.Reachable

/-!
What a stage reports on its way. All its reports are about one amount of work, of which nothing is
done at first, none of them goes back, and the last one of a stage that succeeds says that all is
done. A stage that fails before it has begun reports nothing.
-/
namespace CodeAtlas

namespace ProgressEvent

structure Counts (stage : Stage) (total : Nat) (e : ProgressEvent) : Prop where
  stage_eq : e.stage = stage
  total_eq : e.total = total
  percentage_le : e.percentage ≤ 100
  processed_le : e.processed ≤ total

def Begins (events : List ProgressEvent) : Prop :=
  ∀ e, events.head? = some e → e.percentage = 0 ∧ e.processed = 0

def Completes (total : Nat) (events : List ProgressEvent) : Prop :=
  ∃ e, events.getLast? = some e ∧ e.percentage = 100 ∧ e.processed = total

/-- Reports on one amount of work, from its beginning on, none of which goes back. -/
structure Advance (stage : Stage) (total : Nat) (events : List ProgressEvent) : Prop where
  counts : ∀ e ∈ events, e.Counts stage total
  begins : Begins events
  percentages : events.Pairwise fun a b => a.percentage ≤ b.percentage
  amounts : events.Pairwise fun a b => a.processed ≤ b.processed

variable {stage : Stage} {total : Nat}

theorem Advance.none (stage : Stage) (total : Nat) : Advance stage total [] where
  counts := fun _ member => nomatch member
  begins := fun _ first => nomatch first
  percentages := .nil
  amounts := .nil

/-! Single reports -/

theorem percentageOf_le (processed total : Nat) : percentageOf processed total ≤ 100 := by
  apply Nat.div_le_of_le_mul
  exact Nat.mul_le_mul_right 100 (Nat.min_le_right processed total)

theorem report_counts (stage : Stage) (total processed : Nat) (message : String) :
    (report stage total processed message).Counts stage total :=
  ⟨rfl, rfl, percentageOf_le processed total, Nat.min_le_right processed total⟩

theorem finish_counts (stage : Stage) (total : Nat) (message : String) :
    (finish stage total message).Counts stage total :=
  ⟨rfl, rfl, le_rfl, le_rfl⟩

/-! Reports as they are sent -/

theorem map_rising {α : Type} (f : ProgressEvent → α)
    (apart : ∀ e percentage, f { e with percentage := percentage } = f e) (least : Nat)
    (events : List ProgressEvent) : (rising least events).map f = events.map f := by
  induction events generalizing least with
  | nil => rfl
  | cons e rest ih => rw [rising, List.map_cons, List.map_cons, ih, apart]

theorem le_rising (least : Nat) (events : List ProgressEvent) :
    ∀ e ∈ rising least events, least ≤ e.percentage := by
  induction events generalizing least with
  | nil => exact fun _ member => nomatch member
  | cons first rest ih =>
    intro e member
    rcases List.mem_cons.mp member with rfl | later
    · exact Nat.le_max_right _ _
    · exact (Nat.le_max_right _ _).trans (ih _ e later)

theorem rising_pairwise (least : Nat) (events : List ProgressEvent) :
    (rising least events).Pairwise fun a b => a.percentage ≤ b.percentage := by
  induction events generalizing least with
  | nil => exact .nil
  | cons first rest ih => exact .cons (le_rising _ rest) (ih _)

theorem rising_le {least bound : Nat} (below : least ≤ bound) {events : List ProgressEvent}
    (each : ∀ e ∈ events, e.percentage ≤ bound) :
    ∀ e ∈ rising least events, e.percentage ≤ bound := by
  induction events generalizing least with
  | nil => exact fun _ member => nomatch member
  | cons first rest ih =>
    have next : max first.percentage least ≤ bound := max_le (each first List.mem_cons_self) below
    intro e member
    rcases List.mem_cons.mp member with rfl | later
    · exact next
    · exact ih next (fun e member => each e (List.mem_cons_of_mem _ member)) e later

theorem rising_concat (least : Nat) (before : List ProgressEvent) (e : ProgressEvent) :
    ∃ top, rising least (before ++ [e]) =
      rising least before ++ [{ e with percentage := max e.percentage top }] := by
  induction before generalizing least with
  | nil => exact ⟨least, rfl⟩
  | cons first rest ih =>
    obtain ⟨top, later⟩ := ih (max first.percentage least)
    exact ⟨top, congrArg (List.cons _) later⟩

variable {events : List ProgressEvent}

theorem rising_counts (counts : ∀ e ∈ events, e.Counts stage total) :
    ∀ e ∈ rising 0 events, e.Counts stage total := by
  intro e member
  have le_full := rising_le (Nat.zero_le 100) (fun e member => (counts e member).percentage_le)
  have fields := map_rising (fun e => (e.stage, e.total, e.processed)) (fun _ _ => rfl) 0 events
  obtain ⟨made, among, same⟩ : ∃ made ∈ events,
      (made.stage, made.total, made.processed) = (e.stage, e.total, e.processed) := by
    apply List.mem_map.mp
    rw [← fields]
    exact List.mem_map_of_mem member
  obtain ⟨sameStage, sameTotal, sameAmount⟩ := Prod.mk.injEq .. ▸ Prod.mk.injEq .. ▸ same
  have own := counts made among
  exact ⟨sameStage ▸ own.stage_eq, sameTotal ▸ own.total_eq, le_full e member,
    sameAmount ▸ own.processed_le⟩

theorem rising_completes (counts : ∀ e ∈ events, e.Counts stage total)
    (completes : Completes total events) : Completes total (rising 0 events) := by
  obtain ⟨e, last, full, all⟩ := completes
  obtain ⟨before, rfl⟩ := List.getLast?_eq_some_iff.mp last
  obtain ⟨top, sent⟩ := rising_concat 0 before e
  have bounded := rising_counts counts
  rw [sent] at bounded ⊢
  have le_full := (bounded _ (List.mem_append_right _ (List.mem_singleton_self _))).percentage_le
  have full_le : 100 ≤ max e.percentage top := full ▸ Nat.le_max_left e.percentage top
  exact ⟨_, List.getLast?_concat, Nat.le_antisymm le_full full_le, all⟩

theorem rising_advance (counts : ∀ e ∈ events, e.Counts stage total) (begins : Begins events)
    (amounts : (events.map processed).Pairwise (· ≤ ·)) :
    Advance stage total (rising 0 events) where
  counts := rising_counts counts
  begins := by
    cases events with
    | nil => exact fun _ first => nomatch first
    | cons opening rest =>
      intro e first
      cases first
      obtain ⟨nothing, none_done⟩ := begins opening rfl
      exact ⟨by simp [nothing], none_done⟩
  percentages := rising_pairwise 0 events
  amounts := by
    rw [← map_rising processed (fun _ _ => rfl) 0 events] at amounts
    exact List.pairwise_map.mp amounts

/-! Reports of a stage from where it begins -/

def upTo (stage : Stage) (total : Nat) (opening : String) (between : List (Nat × String))
    (closing : Option String) : List ProgressEvent :=
  rising 0 (.report stage total 0 opening ::
    between.map (fun entry => .report stage total entry.1 entry.2) ++
    (closing.map (.finish stage total)).toList)

section UpTo

variable (opening : String) {between : List (Nat × String)}

theorem made_counts (between : List (Nat × String)) (closing : Option String) :
    ∀ e ∈ report stage total 0 opening ::
      between.map (fun entry => report stage total entry.1 entry.2) ++
      (closing.map (finish stage total)).toList, e.Counts stage total := by
  intro e member
  rcases List.mem_append.mp member with early | last
  · rcases List.mem_cons.mp early with rfl | inside
    · exact report_counts stage total 0 opening
    · obtain ⟨entry, -, rfl⟩ := List.mem_map.mp inside
      exact report_counts stage total entry.1 entry.2
  · obtain ⟨message, -, rfl⟩ := Option.map_eq_some_iff.mp (Option.mem_toList.mp last)
    exact finish_counts stage total message

theorem upTo_advance (amounts : (between.map Prod.fst).Pairwise (· ≤ ·))
    (closing : Option String) : Advance stage total (upTo stage total opening between closing) := by
  apply rising_advance (made_counts opening between closing)
  · intro e first
    cases first
    simp [report, percentageOf]
  · have capped : (between.map fun entry => min entry.1 total).Pairwise (· ≤ ·) :=
      List.pairwise_map.mpr ((List.pairwise_map.mp amounts).imp fun le => min_le_min_right total le)
    cases closing with
    | none => simpa [report, Function.comp_def] using capped
    | some message =>
      have made : (report stage total 0 opening ::
          between.map (fun entry => report stage total entry.1 entry.2) ++
          ((some message).map (finish stage total)).toList).map processed =
          0 :: (between.map fun entry => min entry.1 total) ++ [total] := by
        simp [report, finish, Function.comp_def]
      rw [made, List.cons_append, List.pairwise_cons, List.pairwise_append]
      refine ⟨fun _ _ => Nat.zero_le _, capped, List.pairwise_singleton _ _, ?_⟩
      intro amount member _ last
      obtain ⟨entry, -, rfl⟩ := List.mem_map.mp member
      rw [List.mem_singleton.mp last]
      exact Nat.min_le_right entry.1 total

theorem upTo_completes (between : List (Nat × String)) (message : String) :
    Completes total (upTo stage total opening between (some message)) :=
  rising_completes (made_counts opening between (some message))
    ⟨.finish stage total message, List.getLast?_concat, rfl, rfl⟩

end UpTo

/-! Amounts in between -/

theorem numbered_pairwise {α : Type} (entries : List α) (text : α × Nat → String) :
    ((entries.zipIdx.map fun entry => (entry.2 + 1, text entry)).map Prod.fst).Pairwise
      (· ≤ ·) := by
  have numbers : (entries.zipIdx.map fun entry => (entry.2 + 1, text entry)).map Prod.fst =
      (List.range entries.length).map (· + 1) := by
    calc
      (entries.zipIdx.map fun entry => (entry.2 + 1, text entry)).map Prod.fst =
          (entries.zipIdx.map Prod.snd).map (· + 1) := by
        simp only [List.map_map, Function.comp_def]
      _ = (List.range entries.length).map (· + 1) := by
        rw [List.zipIdx_map_snd, List.range_eq_range']
  rw [numbers]
  exact List.pairwise_map.mpr
    (List.pairwise_lt_range.imp fun lt => Nat.succ_le_succ (Nat.le_of_lt lt))

theorem batchReports_pairwise (total size count : Nat) :
    ((batchReports total size count).map Prod.fst).Pairwise (· ≤ ·) := by
  rw [batchReports, List.map_map]
  apply List.pairwise_map.mpr
  apply List.pairwise_lt_range.imp
  intro a b lt
  have le : (a + 1) * max size 1 ≤ (b + 1) * max size 1 :=
    Nat.mul_le_mul_right _ (Nat.succ_le_succ (Nat.le_of_lt lt))
  exact min_le_min_right total le

end ProgressEvent

open ProgressEvent

/-! What single stages report -/

section Indexing

variable {State : Type} (s : Services State)

theorem addBatches_reports (total first : Nat) (batches : List (List Embedding)) (state : State) :
    ∃ between : List (Nat × String), (first :: between.map Prod.fst).Pairwise (· ≤ ·) ∧
      (addBatches s total first batches state).events =
        between.map fun entry => .report .indexing total entry.1 entry.2 := by
  induction batches generalizing first state with
  | nil => exact ⟨[], List.pairwise_singleton _ _, rfl⟩
  | cons batch rest ih =>
    rw [addBatches]
    split
    · exact ⟨[], List.pairwise_singleton _ _, rfl⟩
    · rename_i after _
      obtain ⟨between, amounts, events⟩ := ih (first + batch.length) after
      refine ⟨(first + batch.length, "added " ++ toString (first + batch.length) ++ " vectors") ::
        between, ?_, congrArg (List.cons _) events⟩
      have next : first ≤ first + batch.length := Nat.le_add_right _ _
      apply List.Pairwise.cons _ amounts
      intro amount member
      rcases List.mem_cons.mp member with rfl | later
      · exact next
      · exact next.trans ((List.pairwise_cons.mp amounts).1 amount later)

theorem saveItems_reports (items : List Item) (count : Nat) (state : State) :
    ∃ closing : Option String,
      (saveItems s items count state).events =
        (closing.map (.finish .indexing items.length)).toList ∧
      ∀ saved, (saveItems s items count state).outcome = .ok saved → closing.isSome := by
  unfold saveItems
  split
  · exact ⟨none, rfl, fun _ made => nomatch made⟩
  · split
    · exact ⟨none, rfl, fun _ made => nomatch made⟩
    · dsimp only
      split
      · exact ⟨none, rfl, fun _ made => nomatch made⟩
      · exact ⟨some _, rfl, fun _ _ => rfl⟩

theorem indexVectors_reports (size dimension : Nat) (items : List Item)
    (vectors : List Embedding) (state : State) :
    let run := indexVectors s size dimension items vectors state
    ∃ opening between closing, (between.map Prod.fst).Pairwise (· ≤ ·) ∧
      run.events = upTo .indexing items.length opening between closing ∧
      ∀ saved, run.outcome = .ok saved → closing.isSome := by
  unfold indexVectors
  dsimp only
  let opening := "indexing " ++ toString items.length ++ " vectors"
  split
  · exact ⟨opening, [], none, .nil, rfl, fun _ made => nomatch made⟩
  · rename_i started _
    obtain ⟨between, amounts, added⟩ :=
      addBatches_reports s items.length 0 (batches size vectors) started
    have amounts := (List.pairwise_cons.mp amounts).2
    split
    · refine ⟨opening, between, none, amounts, ?_, fun _ made => nomatch made⟩
      simp only [added, upTo, opening, Option.map_none, Option.toList_none, List.append_nil]
    · rename_i count _
      obtain ⟨closing, saved, done⟩ := saveItems_reports s items count
        (addBatches s items.length 0 (batches size vectors) started).state
      refine ⟨opening, between, closing, amounts, ?_, done⟩
      simp only [added, saved, upTo, opening]

end Indexing

/-! What a step of any stage reports -/

/-- Faults that end a stage before it has begun. A service does that only where it is asked for the
dimension of the vectors. -/
def PipelineFault.IsEarly (stage : Stage) : PipelineFault → Prop
  | missingPrerequisite _ _ _ | invalidPrerequisite _ _ | discovery _ => True
  | service _ _ => stage = .vectorization
  | write _ _ => False

/-- A step reports on an amount of work: up to its end if it succeeds, and nothing if it fails before
it has begun. -/
structure StageStep.Reports {State : Type} (stage : Stage) (total : Nat) (step : StageStep State) :
    Prop where
  advance : Advance stage total step.events
  completes : step.outcome = .ok () → Completes total step.events
  silent : ∀ fault, step.outcome = .error fault → fault.IsEarly stage → step.events = []

namespace StageStep

variable {State α : Type} {stage : Stage} {total : Nat}

theorem failed_reports {fault : PipelineFault} {results : StageResults} {state : State} :
    (StageStep.failed fault results state).Reports stage total where
  advance := .none stage total
  completes := fun succeeded => nomatch succeeded
  silent := fun _ _ _ => rfl

theorem stored_reports {run : StageRun State α} {results : StageResults}
    {output : α → StageOutput} {made : α} (succeeded : run.outcome = .ok made)
    {opening closing : String} {between : List (Nat × String)}
    (events : run.events = ofStage stage total opening between closing)
    (amounts : (between.map Prod.fst).Pairwise (· ≤ ·)) :
    (run.store results output).Reports stage total := by
  have sent : run.events = upTo stage total opening between (some closing) := events
  rw [run.store_of_ok results output made succeeded, sent]
  exact ⟨upTo_advance opening amounts _, fun _ => upTo_completes opening between closing,
    fun _ failed => nomatch failed⟩

end StageStep

namespace Pipeline

open StageStep (failed_reports stored_reports)

variable {State : Type} (p : Pipeline State) (results : StageResults) (state : State)

def load : Stage → Nat
  | .parsing => ((p.discovery.resolve (p.services.files state)).toOption.getD []).length
  | .dependencies => ((results.heldItems? .parsing).getD []).length
  | .enrichment => ((results.heldItems? .dependencies).getD []).length
  | .vectorization => ((results.heldItems? .enrichment).getD []).length
  | .indexing => ((results.heldItems? .vectorization).getD []).length

theorem runParsing_reports :
    (p.runParsing results state).Reports .parsing (p.load results state .parsing) := by
  unfold runParsing Discovery.extract
  dsimp only
  split
  · exact failed_reports
  · exact failed_reports
  · rename_i root paths _ resolved
    have load : p.load results state .parsing = paths.length := by
      simp [Pipeline.load, resolved, Except.toOption]
    rw [load]
    exact stored_reports rfl rfl (numbered_pairwise paths _)

theorem runDependencies_reports :
    (p.runDependencies results state).Reports .dependencies
      (p.load results state .dependencies) := by
  cases held : results.heldItems? .parsing with
  | none =>
    rw [p.runDependencies_of_missing results state held]
    exact failed_reports
  | some items =>
    have load : p.load results state .dependencies = items.length := by simp [Pipeline.load, held]
    rw [p.runDependencies_of_held results state items held, load]
    exact stored_reports rfl rfl (numbered_pairwise items _)

theorem runEnrichment_reports :
    (p.runEnrichment results state).Reports .enrichment (p.load results state .enrichment) := by
  cases held : results.heldItems? .dependencies with
  | none =>
    rw [p.runEnrichment_of_missing results state held]
    exact failed_reports
  | some items =>
    have load : p.load results state .enrichment = items.length := by simp [Pipeline.load, held]
    rw [p.runEnrichment_of_held results state items held, load]
    exact stored_reports rfl rfl (batchReports_pairwise _ _ _)

theorem runVectorization_reports :
    (p.runVectorization results state).Reports .vectorization
      (p.load results state .vectorization) := by
  cases held : results.heldItems? .enrichment with
  | none =>
    rw [p.runVectorization_of_missing results state held]
    exact failed_reports
  | some items =>
    rcases started : p.services.startVectors state with ⟨fault | dimension, after⟩
    · rw [p.runVectorization_of_fault results state items held fault after started]
      exact failed_reports
    · have load : p.load results state .vectorization = items.length := by
        simp [Pipeline.load, held]
      rw [p.runVectorization_of_held results state items held dimension after started, load]
      exact stored_reports rfl rfl (batchReports_pairwise _ _ _)

theorem indexItems_reports (size dimension : Nat) (items : List Item) :
    ((indexItems p.services size dimension items state).store results .saved).Reports .indexing
      items.length := by
  unfold indexItems
  cases checked : vectorsOf dimension items with
  | error defect => exact failed_reports
  | ok vectors =>
    dsimp only
    obtain ⟨opening, between, closing, amounts, events, done⟩ :=
      indexVectors_reports p.services size dimension items vectors state
    cases outcome : (indexVectors p.services size dimension items vectors state).outcome with
    | error fault =>
      rw [StageRun.store_of_error _ _ _ fault outcome, events]
      have external : fault.IsExternal := indexVectors_external _ _ _ _ _ _ _ outcome
      refine ⟨upTo_advance opening amounts closing, (fun succeeded => nomatch succeeded), ?_⟩
      -- a service or a file is to blame, and neither is asked before the first report
      intro _ same early
      cases same
      cases fault <;> cases external <;> cases early
    | ok saved =>
      obtain ⟨message, rfl⟩ := Option.isSome_iff_exists.mp (done saved outcome)
      exact stored_reports outcome events amounts

theorem runIndexing_reports :
    (p.runIndexing results state).Reports .indexing (p.load results state .indexing) := by
  cases held : results.heldItems? .vectorization with
  | none =>
    rw [p.runIndexing_of_missing results state held]
    exact failed_reports
  | some items =>
    have load : p.load results state .indexing = items.length := by simp [Pipeline.load, held]
    obtain ⟨output, found, lies⟩ := Option.bind_eq_some_iff.mp held
    obtain ⟨embedded, stored, rfl⟩ := Option.map_eq_some_iff.mp found
    rw [p.runIndexing_of_held results state items embedded stored lies, load]
    exact p.indexItems_reports results state _ _ items

theorem runStage_reports (stage : Stage) :
    (p.runStage stage results state).Reports stage (p.load results state stage) := by
  cases stage with
  | parsing => exact p.runParsing_reports results state
  | dependencies => exact p.runDependencies_reports results state
  | enrichment => exact p.runEnrichment_reports results state
  | vectorization => exact p.runVectorization_reports results state
  | indexing => exact p.runIndexing_reports results state

/-- Whatever a stage finds and however its services answer: its reports are all its own and about as
many files or items as it has to work on. The first says that nothing is done, neither percentages nor
amounts go back, and the last says that all is done if the stage succeeds. If the stage fails for want
of what another should have left, or because it cannot find files or learn the dimension of vectors,
there are no reports. -/
theorem stage_reports_advance (stage : Stage) :
    let step := p.runStage stage results state
    Advance stage (p.load results state stage) step.events ∧
      (step.outcome = .ok () → Completes (p.load results state stage) step.events) ∧
      (∀ fault, step.outcome = .error fault → fault.IsEarly stage → step.events = []) ∧
      ((stage = .vectorization ∧ ∃ fault after, p.services.startVectors state = (.error fault, after)) →
        step.outcome ≠ .ok () ∧ step.events = []) := by
  intro step
  have reports := p.runStage_reports results state stage
  refine ⟨reports.advance, reports.completes, reports.silent, ?_⟩
  rintro ⟨rfl, fault, after, started⟩
  cases held : results.heldItems? .enrichment with
  | none =>
    simp [step, runStage, p.runVectorization_of_missing results state held, StageStep.failed]
  | some items =>
    simp [step, runStage, p.runVectorization_of_fault results state items held fault after started,
      StageStep.failed]

end Pipeline
end CodeAtlas
