import FeatureLabels.Metrics.Basic
import FeatureLabels.Reconcile
import FeatureLabels.Retries
import FeatureLabels.Settings

/-!
The operator at work: it carries out tasks on what it knows, counts them, and says when a task
is to be taken up again.
-/

namespace FeatureLabels

inductive Action where
  /-- After a delay, or earlier if something changes. -/
  | requeue (delay : Duration)
  | awaitChange
deriving DecidableEq, Repr

structure Sent where
  result : Except Failure Unit
  elapsed : Nat := 0

inductive Ending where
  | done (edit : Option LabelEdit)
  | failed (failure : Failure)
  /-- It was given up while it still waited. -/
  | abandoned

structure Report where
  calls : List Call := []
  lines : List LogLine := []
  ending : Ending

structure Operator where
  settings : Settings
  inventory : Inventory := {}
  retries : Retries
  metrics : Metrics := {}
  lastTask : Option Task := none
  stopping : Bool := false

namespace Operator

def ofSettings (settings : Settings) : Operator :=
  { settings := settings.bounded
    retries := .ofMaximum settings.bounded.maxRetryDelay }

def begin (op : Operator) (task : Task) : Operator :=
  { op with metrics := op.metrics.begin, lastTask := some task }

def finish (op : Operator) (task : Task) (elapsed : Nat) (ending : Ending) : Operator :=
  let op := { op with metrics := op.metrics.finish task.kind elapsed }
  match ending with
  | .done edit =>
    { op with
      metrics := if edit.isSome then op.metrics.countPatch task.kind else op.metrics
      retries := op.retries.reset task }
  | .failed failure => { op with metrics := op.metrics.countFailure task.kind failure }
  | .abandoned => op

def endingOf : Except Failure (Option LabelEdit) → Ending
  | .ok edit => .done edit
  | .error failure => .failed failure

def elapsed (send : Call → Sent) (calls : List Call) : Nat :=
  calls.foldl (fun total call => total + (send call).elapsed) 0

/-- What a reconcile does once everything it waits for is there, and how long its calls take. -/
def work (op : Operator) (send : Call → Sent) (task : Task) : Report × Nat :=
  let attempt :=
    reconcile op.settings.space op.inventory op.stopping (fun call => (send call).result) task
  ({ calls := attempt.calls, lines := attempt.lines, ending := endingOf attempt.result },
    elapsed send attempt.calls)

/-- What a reconcile does when nobody gives it up, and how long it takes; without a time it
waits forever. -/
def attempt (op : Operator) (send : Call → Sent) (task : Task) : Report × Option Nat :=
  match op.inventory.readiness with
  | (.ready, _) => (op.work send task).map id some
  | (.lost, kind) => ({ ending := .failed (.neverReady kind) }, some 0)
  | (.awaited, _) => ({ ending := .abandoned }, none)

/-- Carries out a task. A reconcile that still waits after `patience` milliseconds is given up;
without patience it is waited for. -/
def run (op : Operator) (patience : Option Nat) (send : Call → Sent) (task : Task) :
    Report × Operator :=
  let (report, elapsed) := op.attempt send task
  let started := op.begin task
  match elapsed, patience with
  | some elapsed, some patience =>
    if elapsed < patience then (report, started.finish task elapsed report.ending)
    else ({ report with ending := .abandoned }, started.finish task patience .abandoned)
  | some elapsed, none => (report, started.finish task elapsed report.ending)
  | none, some patience =>
    ({ report with ending := .abandoned }, started.finish task patience .abandoned)
  | none, none => ({ report with ending := .abandoned }, started)

def strayLine : LogLine := ⟨.debug, "Ignoring ManagedClusterAddOn without a namespace"⟩

def runCluster (op : Operator) (patience : Option Nat) (send : Call → Sent) (c : Cluster) :
    Report × Operator :=
  op.run patience send (.ofCluster c)

def runAddOn (op : Operator) (patience : Option Nat) (send : Call → Sent) (a : AddOn) :
    Report × Operator :=
  match Task.ofAddOn? a with
  | some task => op.run patience send task
  | none => ({ lines := [strayLine], ending := .done none }, op)

/-- When a successful task of that kind is taken up again: clusters are resynced from time to
time, whatever happens. -/
def actionAfter (op : Operator) : Kind → Action
  | .cluster => .requeue op.settings.resyncInterval
  | .addOn => .awaitChange

/-- When a failed task is taken up again. A task that was held back is tried again at once and
not counted as failed. -/
def afterFailure (op : Operator) (task : Task) : Failure → Action × List LogLine × Operator
  | .cancelled =>
    (.requeue ⟨0⟩, [⟨.debug, s!"Reconcile of {task.text} cancelled"⟩], op)
  | failure =>
    (.requeue (op.retries.delay task),
      [⟨.warn, s!"reconcile of {task.text} failed: {failure.message}"⟩],
      { op with retries := op.retries.fail task })

def afterClusterFailure (op : Operator) (c : Cluster) (failure : Failure) :
    Action × List LogLine × Operator :=
  op.afterFailure (.ofCluster c) failure

def afterAddOnFailure (op : Operator) (a : AddOn) (failure : Failure) :
    Action × List LogLine × Operator :=
  match Task.ofAddOn? a with
  | some task => op.afterFailure task failure
  | none => (.awaitChange, [], op)

def register (registered : Bool) : Except Failure Unit :=
  if registered then .error (.metrics .duplicate) else .ok ()

end Operator

end FeatureLabels
