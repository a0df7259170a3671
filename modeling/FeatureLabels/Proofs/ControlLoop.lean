import Mathlib.Logic.Relation
import FeatureLabels.Proofs.FullResync
import FeatureLabels.Proofs.WaitingWork

/-!
A controller and the apiserver that it works for, as a transition system about one cluster. Others
change the cluster and its add-ons at any time; changes are reported late, for each kind in their
order; work is done on what was reported so far, and what it asks for lands late, in any order, or
fails.
-/

namespace FeatureLabels

/-- A cluster and the add-ons as an apiserver holds them, the controller that watches them, and
what is on its way between the two. -/
structure Loop where
  controller : Controller
  cluster : Cluster
  addOns : ObjectMap AddOn
  clusterFeed : List Cluster := []
  addOnFeed : List (WatchEvent AddOn) := []
  inFlight : List Resync := []

/-- A change of the add-ons that an apiserver holds, and the event that reports it. A new add-on
has generation one, and the generation of an add-on never decreases. -/
inductive AddOnChange (held : ObjectMap AddOn) : WatchEvent AddOn → ObjectMap AddOn → Prop where
  | create {a : AddOn} (hspace : a.metadata.inNamespace.isSome = true)
      (hgeneration : a.metadata.generation = some 1) (hfresh : held.get? (identity a) = none) :
      AddOnChange held (.applied a) (held.insert a)
  | update {old a : AddOn} {before now : Int} (hold : held.get? (identity a) = some old)
      (hbefore : old.metadata.generation = some before)
      (hnow : a.metadata.generation = some now) (hle : before ≤ now) :
      AddOnChange held (.applied a) (held.insert a)
  | delete {last : AddOn} (hlast : held.get? (identity last) = some last) :
      AddOnChange held (.deleted last) (held.erase (identity last))

inductive AddOnChanges :
    ObjectMap AddOn → List (WatchEvent AddOn) → ObjectMap AddOn → Prop where
  | nil {held : ObjectMap AddOn} : AddOnChanges held [] held
  | cons {held next last : ObjectMap AddOn} {event : WatchEvent AddOn}
      {events : List (WatchEvent AddOn)} (hchange : AddOnChange held event next)
      (hchanges : AddOnChanges next events last) : AddOnChanges held (event :: events) last

theorem AddOnChanges.concat {held last last' : ObjectMap AddOn} {event : WatchEvent AddOn}
    {events : List (WatchEvent AddOn)} (h : AddOnChanges held events last)
    (hchange : AddOnChange last event last') : AddOnChanges held (events ++ [event]) last' := by
  induction h with
  | nil => exact .cons hchange .nil
  | cons hfirst _ ih => exact .cons hfirst (ih hchange)

namespace Loop

def known (l : Loop) : Inventory := l.controller.operator.inventory

def space (l : Loop) : LabelSpace := l.controller.operator.settings.space

/-- The add-ons as they are, whether the controller knows them or not. -/
def actual (l : Loop) : Inventory := { addOns := { contents := l.addOns } }

def Waits (l : Loop) (task : Task) : Prop := l.controller.queue.Waits task.work

def putCluster (l : Loop) (v : Cluster) : Loop :=
  { l with cluster := v, clusterFeed := l.clusterFeed ++ [v] }

def withdraw (l : Loop) (r : Resync) : Loop := { l with inFlight := l.inFlight.erase r }

def launch (l : Loop) (task : Task) (performed : Controller.Done × Controller) : Loop :=
  { l with
    controller := performed.2
    inFlight := performed.1.calls.map (fun call => ⟨task, call.edit⟩) ++ l.inFlight }

/-- The work of a task is done. What `send` says that its calls come to counts for delays and
metrics only. -/
def take (l : Loop) (send : Call → Sent) (task : Task) : Loop :=
  l.launch task (l.controller.perform send task.work)

/-- The work of a task is done whose object was looked up before: by now it may be gone. -/
def takeLate (l : Loop) (send : Call → Sent) (task : Task) : Loop :=
  l.launch task (l.controller.undertake send task.work task)

inductive Step (name : String) : Loop → Loop → Prop where
  | rewrite {l : Loop} (v : Cluster) (hid : identity v = ⟨none, name⟩)
      (hlive : v.metadata.isTerminating = false) : Step name l (l.putCluster v)
  | change {l : Loop} {event : WatchEvent AddOn} {held : ObjectMap AddOn}
      (hchange : AddOnChange l.addOns event held) :
      Step name l { l with addOns := held, addOnFeed := l.addOnFeed ++ [event] }
  | reportCluster {l : Loop} {v : Cluster} {rest : List Cluster} (now : Nat)
      (hfeed : l.clusterFeed = v :: rest) :
      Step name l
        { l with controller := l.controller.observeCluster (.applied v) now, clusterFeed := rest }
  | reportAddOn {l : Loop} {event : WatchEvent AddOn} {rest : List (WatchEvent AddOn)} (now : Nat)
      (hfeed : l.addOnFeed = event :: rest) :
      Step name l { l with controller := l.controller.observeAddOn event now, addOnFeed := rest }
  /-- Work is asked for without any change. -/
  | remind {l : Loop} (work : List Work) (now : Nat) :
      Step name l { l with controller := l.controller.enqueue work now }
  | take {l : Loop} (send : Call → Sent) (task : Task) (htarget : task.target = name)
      (hwaits : l.Waits task) : Step name l (l.take send task)
  /-- Work that waited is done although its object may have left since it was looked up. -/
  | takeLate {l : Loop} (send : Call → Sent) (task : Task) (htarget : task.target = name)
      (hwaits : l.Waits task) : Step name l (l.takeLate send task)
  | land {l : Loop} {r : Resync} (v : Cluster) (hmem : r ∈ l.inFlight)
      (hid : identity v = ⟨none, name⟩) (hlive : v.metadata.isTerminating = false)
      (hlabels : v.metadata.labelMap = (l.cluster.edited r.edit).metadata.labelMap) :
      Step name l ((l.withdraw r).putCluster v)
  /-- A request lands that changes nothing, which is not reported. -/
  | landSilently {l : Loop} {r : Resync} (hmem : r ∈ l.inFlight)
      (hlabels : (l.cluster.edited r.edit).metadata.labelMap = l.cluster.metadata.labelMap) :
      Step name l (l.withdraw r)
  | fail {l : Loop} {r : Resync} (now : Nat) (delay : Duration) (hmem : r ∈ l.inFlight) :
      Step name l
        { l.withdraw r with
          controller := l.controller.requeue r.task.work now (.requeue delay) }

/-- A loop at its beginning: the controller has listed all there is, nothing is on its way, and the
cluster is to be looked after. -/
structure Begins (name : String) (l : Loop) : Prop where
  running : l.controller.operator.Running
  cluster_known : l.known.clusters.contents.get? ⟨none, name⟩ = some l.cluster
  cluster_live : l.cluster.metadata.isTerminating = false
  cluster_seen :
    l.controller.clusterAspects[(⟨none, name⟩ : ObjectId)]? = some l.cluster.aspect
  addOns_known : l.known.addOns.contents = l.addOns
  addOns_seen : ∀ id, l.controller.addOnAspects[id]? = (l.addOns.get? id).map AddOn.aspect
  noStrays : l.known.NoStrays
  generations : ∀ a ∈ l.addOns.objects, ∃ g, a.metadata.generation = some g ∧ 1 ≤ g
  waits : l.Waits (.cluster name)
  clusterFeed_eq : l.clusterFeed = []
  addOnFeed_eq : l.addOnFeed = []
  inFlight_eq : l.inFlight = []

/-- Nothing is left to be done for a cluster, and nothing is on its way. -/
structure Quiet (name : String) (l : Loop) : Prop where
  waits : ∀ task : Task, task.target = name → ¬ l.Waits task
  clusterFeed_eq : l.clusterFeed = []
  addOnFeed_eq : l.addOnFeed = []
  inFlight_eq : l.inFlight = []

/-- Why the label of a key may be wrong for now: work of a task that is about the key waits, a
version of the cluster with other labels than the known ones or a change of the key's add-on is
still to be reported, or a request on its way will set the label right. -/
inductive Excused (name : String) (l : Loop) (key : String) : Prop where
  | waits {task : Task} (htarget : task.target = name) (hcovers : l.space.Covers task key)
      (hwaits : l.Waits task)
  | version {c v : Cluster} (hknown : l.known.cluster? name = some c) (hmem : v ∈ l.clusterFeed)
      (hne : v.metadata.labelMap ≠ c.metadata.labelMap)
  | event {event : WatchEvent AddOn} {a : AddOn} {addOn : String} (hmem : event ∈ l.addOnFeed)
      (hobject : event.object? = some a) (hid : identity a = ⟨some name, addOn⟩)
      (hcovers : l.space.Covers (.addOn name addOn) key)
  | flight {r : Resync} (hmem : r ∈ l.inFlight)
      (heffect : r.edit.effect key = some (l.space.wantedOn l.actual name)[key]?)

/-- An add-on that is known was last seen as it is. One that is not known was never seen, or last
seen when it was deleted, which its next incarnation differs from. -/
def Tracked : Option AddOn → Option AddOnAspect → Prop
  | some a, seen =>
    seen = some a.aspect ∧ a.metadata.inNamespace.isSome = true ∧
      ∃ g, a.metadata.generation = some g ∧ 1 ≤ g
  | none, seen => ∀ aspect, seen = some aspect → ∃ g, aspect.generation = some g ∧ 2 ≤ g

/-- The watches are in step with the apiserver: `c` is the version of the cluster that the
controller knows, and what is still to be reported makes up for all that it does not know. -/
structure InStep (name : String) (c : Cluster) (l : Loop) : Prop where
  running : l.controller.operator.Running
  cluster_known : l.known.clusters.contents.get? ⟨none, name⟩ = some c
  cluster_live : c.metadata.isTerminating = false
  cluster_seen : l.controller.clusterAspects[(⟨none, name⟩ : ObjectId)]? = some c.aspect
  versions : ∀ v ∈ l.clusterFeed, identity v = ⟨none, name⟩ ∧ v.metadata.isTerminating = false
  lastVersion : l.clusterFeed.getLast?.getD c = l.cluster
  changes : AddOnChanges l.known.addOns.contents l.addOnFeed l.addOns
  tracked : ∀ id, Tracked (l.known.addOns.contents.get? id) l.controller.addOnAspects[id]?

def Aimed (name : String) (l : Loop) : Prop :=
  ∀ r ∈ l.inFlight, r.task.target = name ∧
    ∀ key, r.edit.effect key ≠ none → l.space.Covers r.task key

def wanted? (name : String) (l : Loop) (key : String) : Option String :=
  (l.space.wantedOn l.known name)[key]?

/-- A task sets a key of the cluster right, if it is carried out. -/
structure Serves (name : String) (l : Loop) (task : Task) (key : String) : Prop where
  target_eq : task.target = name
  covers : l.space.Covers task key
  knows : l.known.Knows task

/-- Why a key of the cluster, known in version `c`, needs no further attention: its label is the
wanted one, or something that is waiting or on its way will draw attention to it. -/
inductive Attended (name : String) (c : Cluster) (l : Loop) (key : String) : Prop where
  | right (hlabel : c.metadata.labelMap[key]? = l.wanted? name key)
  | waits {task : Task} (hserves : l.Serves name task key) (hwaits : l.Waits task)
  | report {v : Cluster} (hmem : v ∈ l.clusterFeed)
      (hne : v.metadata.labelMap ≠ c.metadata.labelMap)
  | flight {r : Resync} (hmem : r ∈ l.inFlight) (hserves : l.Serves name r.task key)
      (heffect : r.edit.effect key = some (l.wanted? name key))

structure Sound (name : String) (c : Cluster) (l : Loop) : Prop where
  inStep : l.InStep name c
  aimed : l.Aimed name
  attended : ∀ key, l.space.owns key = true → l.Attended name c key

end Loop

end FeatureLabels
