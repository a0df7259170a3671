import FeatureLabels.Feed
import FeatureLabels.Operator
import FeatureLabels.WorkQueue

/-!
The operator with its watches: events fill its stores and queue work, and work that is due is
done on what the stores hold by then.
-/

namespace FeatureLabels

/-- The operator, what it last saw of each object, and the work that waits. -/
structure Controller where
  operator : Operator
  clusterAspects : AspectMap ClusterAspect := ∅
  addOnAspects : AspectMap AddOnAspect := ∅
  queue : WorkQueue := {}

namespace Controller

def workOf {α : Type} [HasMetadata α] (kind : Kind) (object : Option α) : List Work :=
  (object.map fun o => ⟨kind, identity o⟩).toList

/-- The work that a deleted add-on leaves behind: it cannot be looked after any more, so its
cluster is resynced. -/
def workAfter : WatchEvent AddOn → List Work
  | .deleted a => (a.metadata.inNamespace.map fun c => ⟨.cluster, ⟨none, c⟩⟩).toList
  | _ => []

def enqueue (c : Controller) (work : List Work) (now : Nat) : Controller :=
  { c with queue := work.foldl (fun q w => q.add w now) c.queue }

def observeCluster (c : Controller) (event : WatchEvent Cluster) (now : Nat) : Controller :=
  let (changed, aspects) := AspectMap.notice c.clusterAspects Cluster.aspect event
  { c with
    operator.inventory.clusters := c.operator.inventory.clusters.record event
    clusterAspects := aspects }.enqueue (workOf .cluster changed) now

def observeAddOn (c : Controller) (event : WatchEvent AddOn) (now : Nat) : Controller :=
  let (changed, aspects) := AspectMap.notice c.addOnAspects AddOn.aspect event
  { c with
    operator.inventory.addOns := c.operator.inventory.addOns.record event
    addOnAspects := aspects }.enqueue (workOf .addOn changed ++ workAfter event) now

structure Done where
  calls : List Call := []
  elapsed : Nat := 0
  action : Action := .awaitChange

def follow (op : Operator) (kind : Kind) (task : Option Task) (report : Report) :
    Action × Operator :=
  match report.ending, task with
  | .done _, _ => (op.actionAfter kind, op)
  | .failed failure, some task =>
    let (action, _, op) := op.afterFailure task failure
    (action, op)
  | .failed _, none => (.awaitChange, op)
  | .abandoned, _ => (.awaitChange, op)

/-- The task of the object that work is about, if the object is known. An add-on that belongs to
no cluster has no task. -/
def taskOf? (inv : Inventory) (work : Work) : Option (Option Task) :=
  match work.kind with
  | .cluster => (inv.clusters.get? work.id).map fun o => some (Task.ofCluster o)
  | .addOn => (inv.addOns.get? work.id).map Task.ofAddOn?

/-- Carries out the task of a piece of work, whose object has been looked up, on what is known
now. -/
def undertake (c : Controller) (send : Call → Sent) (work : Work) (task : Task) :
    Done × Controller :=
  let (report, op) := c.operator.run none send task
  let (action, op) := follow op work.kind (some task) report
  ({ calls := report.calls, elapsed := Operator.elapsed send report.calls, action },
    { c with queue := c.queue.remove work, operator := op })

/-- Does a piece of work on what is known now. Work on an object that is gone is skipped. -/
def perform (c : Controller) (send : Call → Sent) (work : Work) : Done × Controller :=
  match taskOf? c.operator.inventory work with
  | none => ({}, { c with queue := c.queue.remove work })
  | some none =>
    ({ action := c.operator.actionAfter work.kind }, { c with queue := c.queue.remove work })
  | some (some task) => c.undertake send work task

def requeue (c : Controller) (work : Work) (now : Nat) : Action → Controller
  | .requeue delay => { c with queue := c.queue.add work (now + delay.millis) }
  | .awaitChange => c

end Controller

end FeatureLabels
