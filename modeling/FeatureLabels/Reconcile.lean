import FeatureLabels.Apiserver
import FeatureLabels.Plan

namespace FeatureLabels

structure Attempt where
  calls : List Call := []
  lines : List LogLine := []
  result : Except Failure (Option LabelEdit)

def callLines (cluster : String) : List LogLine :=
  [⟨.info, s!"Updating add-on labels of ManagedCluster {cluster}"⟩,
   ⟨.debug, s!"Patching labels of ManagedCluster {cluster}"⟩]

def carryOut (stopping : Bool) (send : Call → Except Failure Unit) (cluster : String) :
    Option LabelEdit → Attempt
  | none => { result := .ok none }
  | some edit =>
    if stopping then { result := .error .cancelled }
    else
      { calls := [⟨cluster, edit⟩]
        lines := callLines cluster
        result := (send ⟨cluster, edit⟩).map fun _ => some edit }

def reconcile (s : LabelSpace) (inv : Inventory) (stopping : Bool)
    (send : Call → Except Failure Unit) (task : Task) : Attempt :=
  let attempt := carryOut stopping send task.target (s.plan inv task)
  { attempt with lines := LabelSpace.planLines inv task ++ attempt.lines }

end FeatureLabels
