import CodeAtlas.Pipeline.Stage

/-!
Reports on how far a stage has come.
-/
namespace CodeAtlas

structure ProgressEvent where
  stage : Stage
  percentage : Nat
  message : String
  processed : Nat
  total : Nat
  deriving DecidableEq, Repr

namespace ProgressEvent

/-- Rounded down; nothing is done of nothing. -/
def percentageOf (processed total : Nat) : Nat := min processed total * 100 / total

def report (stage : Stage) (total processed : Nat) (message : String) : ProgressEvent :=
  ⟨stage, percentageOf processed total, message, min processed total, total⟩

/-- The last report, which says that all is done even of nothing. -/
def finish (stage : Stage) (total : Nat) (message : String) : ProgressEvent :=
  ⟨stage, 100, message, total, total⟩

/-- Reports as they are sent: no percentage is below the one before it. -/
def rising (least : Nat) : List ProgressEvent → List ProgressEvent
  | [] => []
  | e :: rest =>
    let percentage := max e.percentage least
    { e with percentage := percentage } :: rising percentage rest

def ofStage (stage : Stage) (total : Nat) (opening : String) (between : List (Nat × String))
    (closing : String) : List ProgressEvent :=
  rising 0 (.report stage total 0 opening ::
    between.map (fun entry => .report stage total entry.1 entry.2) ++
    [.finish stage total closing])

def toJson (e : ProgressEvent) : Json :=
  .object [("stage", .string e.stage.name), ("percentage", .ofNat e.percentage),
    ("message", .string e.message), ("itemsProcessed", .ofNat e.processed),
    ("totalItems", .ofNat e.total)]

end ProgressEvent
end CodeAtlas
