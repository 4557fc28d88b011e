import CodeAtlas.Discovery.Resolve
import CodeAtlas.Fault
import CodeAtlas.Pipeline.Stage

/-!
Faults that end a stage. Faults with single files, items and batches do not.
-/
namespace CodeAtlas

inductive VectorDefect where
  | missing (id : String)
  | misfit (id : String) (length dimension : Nat)
  deriving DecidableEq, Repr

def VectorDefect.message : VectorDefect → String
  | missing id => "item " ++ id ++ " has no vector"
  | misfit id length dimension =>
    "item " ++ id ++ " has a vector of dimension " ++ toString length ++ ", expected " ++
      toString dimension

inductive PipelineFault where
  /-- Another stage has not run, or what it left behind was taken. -/
  | missingPrerequisite (stage requires : Stage) (field : String)
  | invalidPrerequisite (stage : Stage) (defect : VectorDefect)
  | service (stage : Stage) (fault : ServiceFault)
  | discovery (fault : DiscoveryFault)
  | write (path : Path) (fault : FileFault)
  deriving DecidableEq, Repr

namespace PipelineFault

def stage : PipelineFault → Stage
  | missingPrerequisite stage _ _ => stage
  | invalidPrerequisite stage _ => stage
  | service stage _ => stage
  | discovery _ => .parsing
  | write _ _ => .indexing

def message : PipelineFault → String
  | missingPrerequisite stage requires field =>
    "stage '" ++ stage.name ++ "' requires '" ++ field ++ "' from the '" ++ requires.name ++
      "' stage output"
  | invalidPrerequisite stage defect =>
    "stage '" ++ stage.name ++ "' received invalid input: " ++ defect.message
  | service stage fault => "stage '" ++ stage.name ++ "' collaborator failed: " ++ fault.message
  | discovery fault => fault.message
  | write path fault => "failed to write " ++ path.toString ++ ": " ++ fault.message

end PipelineFault
end CodeAtlas
