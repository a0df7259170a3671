import FeatureLabels.Controller

/-!
A controller in its surroundings: an apiserver that holds objects, answers calls and reports
changes, and a clock that moves when nothing is left to do.
-/

namespace FeatureLabels

structure Scripted where
  answer : Answer
  delay : Nat := 0
deriving DecidableEq, Repr

inductive Change where
  | putCluster (c : Cluster)
  | putAddOn (a : AddOn)
  | deleteCluster (c : Cluster)
  | deleteAddOn (a : AddOn)

structure Fleet where
  controller : Controller
  clusters : ObjectMap Cluster := ∅
  addOns : ObjectMap AddOn := ∅
  /-- The answers to the next calls; after them every call is accepted. -/
  script : List Scripted := []
  now : Nat := 0
  /-- The time at which broken watches list everything again. -/
  relistAt : Option Nat := none
  /-- The clusters that got a request since this was last cleared. -/
  requested : KeySet := ∅

namespace Fleet

def relistPause : Nat := 1000

def missing (name : String) : Answer :=
  .ofStatus
    { status := "Failure"
      message :=
        Kind.cluster.definition.plural ++ "." ++ Kind.cluster.definition.group ++ " " ++
          Text.quoted name ++ " not found"
      reason := "NotFound"
      code := 404 }

def answerTo (f : Fleet) (call : Call) : Scripted :=
  match f.script, f.clusters.get? ⟨none, call.cluster⟩ with
  | scripted :: _, _ => scripted
  | [], some c => ⟨.ofCluster 200 c, 0⟩
  | [], none => ⟨missing call.cluster, 0⟩

def send (f : Fleet) (call : Call) : Sent :=
  { result := call.outcome (f.answerTo call).answer
    elapsed := if call.request?.isSome then (f.answerTo call).delay else 0 }

def reportCluster (f : Fleet) (event : WatchEvent Cluster) : Fleet :=
  if f.relistAt.isSome then f
  else { f with controller := f.controller.observeCluster event f.now }

def reportAddOn (f : Fleet) (event : WatchEvent AddOn) : Fleet :=
  if f.relistAt.isSome then f
  else { f with controller := f.controller.observeAddOn event f.now }

def apply (f : Fleet) (silent : Bool) : Change → Fleet
  | .putCluster c =>
    let f := { f with clusters := f.clusters.insert c }
    if silent then f else f.reportCluster (.applied c)
  | .putAddOn a =>
    let f := { f with addOns := f.addOns.insert a }
    if silent then f else f.reportAddOn (.applied a)
  | .deleteCluster c =>
    match f.clusters.get? (identity c) with
    | none => f
    | some last =>
      let f := { f with clusters := f.clusters.erase (identity c) }
      if silent then f else f.reportCluster (.deleted last)
  | .deleteAddOn a =>
    match f.addOns.get? (identity a) with
    | none => f
    | some last =>
      let f := { f with addOns := f.addOns.erase (identity a) }
      if silent then f else f.reportAddOn (.deleted last)

/-- Takes a call in: it is answered, and if it is accepted, the cluster is changed and the
change reported. -/
def receive (f : Fleet) (call : Call) : Fleet :=
  if call.request?.isNone then f
  else
    let accepted := (f.answerTo call).answer.accepts
    let f := { f with script := f.script.drop 1, requested := f.requested.insert call.cluster }
    match f.clusters.get? ⟨none, call.cluster⟩ with
    | some c => if accepted then f.apply false (.putCluster (c.edited call.edit)) else f
    | none => f

def breakWatches (f : Fleet) : Fleet := { f with relistAt := some (f.now + relistPause) }

def relist (f : Fleet) : Fleet :=
  (WatchEvent.ofList f.addOns.objects).foldl reportAddOn <|
    (WatchEvent.ofList f.clusters.objects).foldl reportCluster { f with relistAt := none }

def perform (f : Fleet) (work : Work) : Fleet :=
  let (done, controller) := f.controller.perform f.send work
  let f := done.calls.foldl receive { f with controller }
  { f with controller := f.controller.requeue work (f.now + done.elapsed) done.action }

inductive Next where
  | relist
  | work (w : Work)

/-- What happens next, and when. A controller that is stopping does nothing more. -/
def next? (f : Fleet) : Option (Nat × Next) :=
  if f.controller.operator.stopping then none
  else
    match f.relistAt, f.controller.queue.first? with
    | some t, some (w, due) => if due < t then some (due, .work w) else some (t, .relist)
    | some t, none => some (t, .relist)
    | none, some (w, due) => some (due, .work w)
    | none, none => none

def settle (fuel : Nat) (f : Fleet) (deadline : Nat) : Fleet :=
  match fuel with
  | 0 => { f with now := deadline }
  | fuel + 1 =>
    match f.next? with
    | none => { f with now := deadline }
    | some (time, what) =>
      if time < deadline then
        let f := { f with now := max f.now time }
        match what with
        | .relist => settle fuel f.relist deadline
        | .work w => settle fuel (f.perform w) deadline
      else { f with now := deadline }

/-- More than can happen within so many milliseconds: in one of them, each object is looked after
at most once for itself and once for each object that changed. -/
def settleFuel (f : Fleet) (millis : Nat) : Nat :=
  let objects := f.clusters.size + f.addOns.size + f.controller.queue.entries.length + 1
  (millis + 1) * (objects * objects)

def pass (f : Fleet) (millis : Nat) : Fleet := f.settle (f.settleFuel millis) (f.now + millis)

def ofObjects (settings : Settings) (clusters : List Cluster) (addOns : List AddOn)
    (script : List Scripted) : Fleet :=
  relist
    { controller := { operator := .ofSettings settings }
      clusters := .ofList clusters
      addOns := .ofList addOns
      script }

def stop (f : Fleet) : Fleet := { f with controller.operator.stopping := true }

def labels (f : Fleet) : List (String × Option LabelMap) :=
  f.clusters.objects.map fun c => ((identity c).name, c.metadata.labels)

end Fleet

end FeatureLabels
