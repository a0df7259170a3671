import FeatureLabels.Controller
import FeatureLabels.Proofs.PlanEffect

namespace FeatureLabels

namespace WorkQueue

def Waits (q : WorkQueue) (work : Work) : Prop := work ∈ q.entries.map Prod.fst

instance (q : WorkQueue) (work : Work) : Decidable (q.Waits work) :=
  inferInstanceAs (Decidable (work ∈ q.entries.map Prod.fst))

variable {q : WorkQueue} {work other : Work} {time : Nat}

theorem waits_of_due? (h : q.due? work = some time) : q.Waits work := by
  obtain ⟨entry, hentry, -⟩ := Option.map_eq_some_iff.mp h
  have hwork : entry.1 = work := by simpa using List.find?_some hentry
  exact List.mem_map.mpr ⟨entry, List.mem_of_find?_eq_some hentry, hwork⟩

theorem waits_remove : (q.remove work).Waits other ↔ q.Waits other ∧ other ≠ work := by
  simp only [Waits, remove, List.mem_map, List.mem_filter, bne_iff_ne]
  constructor
  · rintro ⟨entry, ⟨hmem, hne⟩, rfl⟩
    exact ⟨⟨entry, hmem, rfl⟩, hne⟩
  · rintro ⟨⟨entry, hmem, rfl⟩, hne⟩
    exact ⟨entry, ⟨hmem, hne⟩, rfl⟩

theorem waits_add : (q.add work time).Waits other ↔ other = work ∨ q.Waits other := by
  have hconcat : ∀ p : WorkQueue,
      WorkQueue.Waits ⟨p.entries ++ [(work, time)]⟩ other ↔ other = work ∨ p.Waits other := by
    intro p
    simp [Waits, or_comm]
  rw [add]
  cases hdue : q.due? work with
  | none => exact hconcat q
  | some old =>
      simp only
      split
      · refine ⟨.inr, ?_⟩
        rintro (rfl | h)
        · exact waits_of_due? hdue
        · exact h
      · rw [hconcat, waits_remove]
        by_cases h : other = work <;> simp [h]

end WorkQueue

namespace Task

/-- The work that a task is asked for by. -/
def work : Task → Work
  | .cluster name => ⟨.cluster, none, name⟩
  | .addOn owner name => ⟨.addOn, some owner, name⟩

theorem work_injective {a b : Task} (h : a.work = b.work) : a = b := by
  cases a <;> cases b <;> simp_all [work]

end Task

namespace Inventory

def Knows (inv : Inventory) : Task → Prop
  | .cluster name => (inv.clusters.contents.get? ⟨none, name⟩).isSome = true
  | .addOn cluster name => (inv.addOns.contents.get? ⟨some cluster, name⟩).isSome = true

instance (inv : Inventory) (task : Task) : Decidable (inv.Knows task) :=
  match task with
  | .cluster _ => inferInstanceAs (Decidable (_ = _))
  | .addOn _ _ => inferInstanceAs (Decidable (_ = _))

theorem Knows.insertCluster {inv : Inventory} {task : Task} (h : inv.Knows task) (v : Cluster) :
    Knows { inv with clusters.contents := inv.clusters.contents.insert v } task := by
  cases task with
  | cluster name =>
      change ((inv.clusters.contents.insert v).get? ⟨none, name⟩).isSome = true
      rw [ObjectMap.get?_insert]
      split
      · rfl
      · exact h
  | addOn _ _ => exact h

end Inventory

namespace Operator

variable {op : Operator}

/-- An operator at work: it is not stopping, and its stores are filled and watched. -/
structure Running (op : Operator) : Prop where
  going : op.stopping = false
  clusters_filled : op.inventory.clusters.filled = true
  clusters_watched : op.inventory.clusters.watched = true
  addOns_filled : op.inventory.addOns.filled = true
  addOns_watched : op.inventory.addOns.watched = true

theorem Running.readiness (h : op.Running) : op.inventory.readiness.1 = .ready := by
  simp [Inventory.readiness, Store.readiness, h.clusters_filled, h.addOns_filled]

theorem Running.calls_run (h : op.Running) (send : Call → Sent) (task : Task) :
    (op.run none send task).1.calls =
      (op.settings.space.plan op.inventory task).toList.map (Call.mk task.target) := by
  have hattempt : op.attempt send task = (op.work send task).map id some := by
    rw [attempt]
    split
    · rfl
    all_goals
      rename_i hlost
      have hready := h.readiness
      rw [hlost] at hready
      contradiction
  rw [run, hattempt]
  simp only [work, Prod.map_apply, h.going, LabelSpace.calls_reconcile, id_eq]

theorem begin_finish (op : Operator) (task other : Task) (elapsed : Nat) (ending : Ending) :
    ∃ retries metrics lastTask,
      (op.begin task).finish other elapsed ending = { op with retries, metrics, lastTask } := by
  cases ending <;> exact ⟨_, _, _, rfl⟩

theorem run_snd (op : Operator) (patience : Option Nat) (send : Call → Sent) (task : Task) :
    ∃ retries metrics lastTask,
      (op.run patience send task).2 = { op with retries, metrics, lastTask } := by
  rw [run]
  split
  · rename_i report elapsed _
    cases elapsed with
    | none =>
        cases patience with
        | none => exact ⟨_, _, _, rfl⟩
        | some limit => exact begin_finish op task task limit .abandoned
    | some time =>
        cases patience with
        | none => exact begin_finish op task task time report.ending
        | some limit =>
            simp only
            split
            · exact begin_finish op task task time report.ending
            · exact begin_finish op task task limit .abandoned

end Operator

theorem AspectMap.getElem?_insert {τ : Type} (seen : AspectMap τ) (id other : ObjectId)
    (aspect : τ) :
    (seen.insert id aspect)[other]? = if id = other then some aspect else seen[other]? := by
  simp [Std.ExtTreeMap.getElem?_insert]

def AddOn.markedDeleted (a : AddOn) : AddOn :=
  { a with metadata.generation := deletedGeneration a.metadata.generation }

namespace Controller

variable {c : Controller} {now : Nat} {w other : Work} {a : AddOn} {send : Call → Sent}

theorem waits_enqueue (c : Controller) (work : List Work) (now : Nat) :
    (c.enqueue work now).queue.Waits w ↔ w ∈ work ∨ c.queue.Waits w := by
  induction work generalizing c with
  | nil => simp [enqueue]
  | cons first rest ih =>
      have hrest := ih { c with queue := c.queue.add first now }
      rw [WorkQueue.waits_add] at hrest
      rw [List.mem_cons, or_assoc, or_left_comm]
      exact hrest

theorem waits_requeue (c : Controller) (delay : Duration) :
    (c.requeue w now (.requeue delay)).queue.Waits other ↔ other = w ∨ c.queue.Waits other :=
  WorkQueue.waits_add

theorem mem_workOf {α : Type} [HasMetadata α] {kind : Kind} {object : Option α} :
    w ∈ workOf kind object ↔ ∃ o, object = some o ∧ w = ⟨kind, identity o⟩ := by
  cases object <;> simp [workOf]

theorem waits_observeCluster_applied (c : Controller) (v : Cluster) (now : Nat) :
    (c.observeCluster (.applied v) now).queue.Waits w ↔
      c.clusterAspects[identity v]? ≠ some v.aspect ∧ w = ⟨.cluster, identity v⟩ ∨
        c.queue.Waits w := by
  rw [observeCluster, waits_enqueue, mem_workOf]
  simp only [AspectMap.notice, WatchEvent.markDeletion, WatchEvent.object?]
  by_cases h : c.clusterAspects[identity v]? = some v.aspect <;> simp [h]

theorem waits_observeAddOn_applied (c : Controller) (a : AddOn) (now : Nat) :
    (c.observeAddOn (.applied a) now).queue.Waits w ↔
      c.addOnAspects[identity a]? ≠ some a.aspect ∧ w = ⟨.addOn, identity a⟩ ∨
        c.queue.Waits w := by
  rw [observeAddOn, waits_enqueue, List.mem_append, mem_workOf]
  simp only [AspectMap.notice, WatchEvent.markDeletion, WatchEvent.object?, workAfter]
  by_cases h : c.addOnAspects[identity a]? = some a.aspect <;> simp [h]

theorem waits_observeAddOn_deleted {cluster : String}
    (hspace : a.metadata.inNamespace = some cluster) :
    (c.observeAddOn (.deleted a) now).queue.Waits (Task.cluster cluster).work := by
  rw [observeAddOn, waits_enqueue, List.mem_append]
  refine .inl (.inr ?_)
  simp [workAfter, hspace, Task.work]

theorem waits_observeAddOn_of_waits (event : WatchEvent AddOn) (now : Nat) (h : c.queue.Waits w) :
    (c.observeAddOn event now).queue.Waits w := by
  rw [observeAddOn, waits_enqueue]
  exact .inr h

theorem operator_observeCluster_applied (c : Controller) (v : Cluster) (now : Nat)
    (hwatched : c.operator.inventory.clusters.watched = true) :
    (c.observeCluster (.applied v) now).operator =
      { c.operator with
        inventory.clusters.contents := c.operator.inventory.clusters.contents.insert v } := by
  simp [observeCluster, enqueue, Store.record, hwatched]

theorem operator_observeAddOn_applied (c : Controller) (a : AddOn) (now : Nat)
    (hwatched : c.operator.inventory.addOns.watched = true) :
    (c.observeAddOn (.applied a) now).operator =
      { c.operator with
        inventory.addOns.contents := c.operator.inventory.addOns.contents.insert a } := by
  simp [observeAddOn, enqueue, Store.record, hwatched]

theorem operator_observeAddOn_deleted (c : Controller) (a : AddOn) (now : Nat)
    (hwatched : c.operator.inventory.addOns.watched = true) :
    (c.observeAddOn (.deleted a) now).operator =
      { c.operator with
        inventory.addOns.contents :=
          c.operator.inventory.addOns.contents.erase (identity a) } := by
  simp [observeAddOn, enqueue, Store.record, hwatched]

theorem clusterAspects_observeCluster_applied (c : Controller) (v : Cluster) (now : Nat) :
    (c.observeCluster (.applied v) now).clusterAspects =
      c.clusterAspects.insert (identity v) v.aspect := rfl

theorem addOnAspects_observeAddOn_applied (c : Controller) (a : AddOn) (now : Nat) :
    (c.observeAddOn (.applied a) now).addOnAspects =
      c.addOnAspects.insert (identity a) a.aspect := rfl

theorem addOnAspects_observeAddOn_deleted (c : Controller) (a : AddOn) (now : Nat) :
    (c.observeAddOn (.deleted a) now).addOnAspects =
      c.addOnAspects.insert (identity a) a.markedDeleted.aspect := rfl

theorem taskOf?_work {inv : Inventory} (hstrays : inv.NoStrays) (task : Task) :
    taskOf? inv task.work = if inv.Knows task then some (some task) else none := by
  cases task with
  | cluster name =>
      have hget : taskOf? inv (Task.cluster name).work =
          (inv.clusters.contents.get? ⟨none, name⟩).map fun o => some (Task.ofCluster o) := by
        simp only [taskOf?, Task.work, Store.get?, Option.or_self]
      rw [hget]
      split
      · rename_i hknown
        obtain ⟨o, ho⟩ := Option.isSome_iff_exists.mp hknown
        have hname : o.metadata.givenName = name :=
          congrArg ObjectId.name (ObjectMap.identity_of_get? ho)
        simp [ho, Task.ofCluster, hname]
      · rename_i hunknown
        simpa [Inventory.Knows] using hunknown
  | addOn owner name =>
      have hget : taskOf? inv (Task.addOn owner name).work =
          (inv.addOns.contents.get? ⟨some owner, name⟩).map Task.ofAddOn? := by
        rw [← Inventory.addOn?_eq hstrays]
        rfl
      rw [hget]
      split
      · rename_i hknown
        obtain ⟨o, ho⟩ := Option.isSome_iff_exists.mp hknown
        have hid : identity o = ⟨some owner, name⟩ := ObjectMap.identity_of_get? ho
        have hspace : o.metadata.inNamespace = some owner := congrArg ObjectId.inNamespace hid
        have hname : o.metadata.givenName = name := congrArg ObjectId.name hid
        simp [ho, Task.ofAddOn?, hspace, hname]
      · rename_i hunknown
        simpa [Inventory.Knows] using hunknown

theorem calls_undertake (h : c.operator.Running) (send : Call → Sent) (task : Task) :
    (c.undertake send w task).1.calls =
      (c.operator.settings.space.plan c.operator.inventory task).toList.map
        (Call.mk task.target) :=
  h.calls_run send task

theorem calls_perform (h : c.operator.Running) (hstrays : c.operator.inventory.NoStrays)
    (send : Call → Sent) (task : Task) :
    (c.perform send task.work).1.calls =
      if c.operator.inventory.Knows task then
        (c.operator.settings.space.plan c.operator.inventory task).toList.map
          (Call.mk task.target)
      else [] := by
  have htask := taskOf?_work hstrays task
  split
  · rename_i hknown
    rw [if_pos hknown] at htask
    simp only [perform, htask]
    exact calls_undertake h send task
  · rename_i hunknown
    rw [if_neg hunknown] at htask
    simp only [perform, htask]

theorem follow_snd (op : Operator) (kind : Kind) (task : Option Task) (report : Report) :
    ∃ retries, (follow op kind task report).2 = { op with retries } := by
  unfold follow
  split
  · exact ⟨_, rfl⟩
  · rename_i failure task _
    cases failure <;> exact ⟨_, rfl⟩
  · exact ⟨_, rfl⟩
  · exact ⟨_, rfl⟩

theorem undertake_snd (c : Controller) (send : Call → Sent) (work : Work) (task : Task) :
    ∃ retries metrics lastTask,
      (c.undertake send work task).2 =
        { c with
          queue := c.queue.remove work
          operator := { c.operator with retries, metrics, lastTask } } := by
  obtain ⟨_, metrics, lastTask, hrun⟩ := c.operator.run_snd none send task
  obtain ⟨retries, hfollow⟩ := follow_snd (c.operator.run none send task).2 work.kind
    (some task) (c.operator.run none send task).1
  refine ⟨retries, metrics, lastTask, ?_⟩
  rw [hrun] at hfollow
  simp only [undertake, hrun, hfollow]

theorem perform_snd (c : Controller) (send : Call → Sent) (work : Work) :
    ∃ retries metrics lastTask,
      (c.perform send work).2 =
        { c with
          queue := c.queue.remove work
          operator := { c.operator with retries, metrics, lastTask } } := by
  rw [perform]
  cases taskOf? c.operator.inventory work with
  | none => exact ⟨_, _, _, rfl⟩
  | some task =>
      cases task with
      | none => exact ⟨_, _, _, rfl⟩
      | some task => exact c.undertake_snd send work task

end Controller

end FeatureLabels
