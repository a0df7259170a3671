import FeatureLabels.Proofs.FullResync

namespace FeatureLabels

namespace Inventory

structure AgreeOn (inv inv' : Inventory) (cluster : String) : Prop where
  cluster_eq : inv'.cluster? cluster = inv.cluster? cluster
  addOns_iff : ∀ a : AddOn, a.metadata.inNamespace = some cluster →
    (a ∈ inv'.addOns.objects ↔ a ∈ inv.addOns.objects)

/-- Where the add-on of a task is unknown in its namespace, two inventories hold the same add-on of
its name without a namespace. -/
def SameFallback (inv inv' : Inventory) : Task → Prop
  | .cluster _ => True
  | .addOn cluster name =>
    inv.addOns.contents.get? ⟨some cluster, name⟩ = none →
      inv'.addOns.contents.get? ⟨none, name⟩ = inv.addOns.contents.get? ⟨none, name⟩

def afterEvent (inv : Inventory) (event : WatchEvent AddOn) : Inventory :=
  { inv with addOns := inv.addOns.record event }

variable {inv inv' : Inventory} {cluster name : String} {a : AddOn} {event : WatchEvent AddOn}

theorem AgreeOn.get?_eq (h : inv.AgreeOn inv' cluster) (name : String) :
    inv'.addOns.contents.get? ⟨some cluster, name⟩ =
      inv.addOns.contents.get? ⟨some cluster, name⟩ := by
  apply Option.ext
  intro a
  rw [ObjectMap.get?_eq_some_iff, ObjectMap.get?_eq_some_iff]
  apply and_congr_left
  intro hid
  exact h.addOns_iff a (congrArg ObjectId.inNamespace hid)

theorem AgreeOn.addOn?_eq (h : inv.AgreeOn inv' cluster)
    (hfallback : inv.SameFallback inv' (.addOn cluster name)) :
    inv'.addOn? cluster name = inv.addOn? cluster name := by
  rw [addOn?, addOn?, Store.get?, Store.get?, h.get?_eq name]
  cases hown : inv.addOns.contents.get? ⟨some cluster, name⟩ with
  | some a => rfl
  | none => exact hfallback hown

theorem get?_afterEvent_of_ne (hevent : event = .applied a ∨ event = .deleted a) {id : ObjectId}
    (hid : identity a ≠ id) :
    (inv.afterEvent event).addOns.contents.get? id = inv.addOns.contents.get? id := by
  cases hwatched : inv.addOns.watched with
  | false => simp [afterEvent, Store.record, hwatched]
  | true =>
      rcases hevent with rfl | rfl
      · simp [afterEvent, Store.record, hwatched, ObjectMap.get?_insert, hid]
      · simp [afterEvent, Store.record, hwatched, ObjectMap.get?_erase, hid]

theorem agreeOn_afterEvent (hevent : event = .applied a ∨ event = .deleted a)
    (hstray : a.metadata.inNamespace = none) (cluster : String) :
    inv.AgreeOn (inv.afterEvent event) cluster := by
  constructor
  · rfl
  · intro b hspace
    have hid : identity a ≠ identity b := by
      intro hsame
      have hspaces : a.metadata.inNamespace = b.metadata.inNamespace :=
        congrArg ObjectId.inNamespace hsame
      rw [hstray, hspace] at hspaces
      contradiction
    rw [Store.objects, Store.objects, ObjectMap.mem_objects, ObjectMap.mem_objects,
      get?_afterEvent_of_ne hevent hid]

end Inventory

open Inventory LabelSpace

variable {s : LabelSpace} {inv inv' : Inventory} {task : Task}

theorem LabelSpace.plan_eq_of_agreeOn (h : inv.AgreeOn inv' task.target)
    (hfallback : inv.SameFallback inv' task) : s.plan inv' task = s.plan inv task := by
  apply plan_congr
  · intro key _
    rw [shownLabel?, shownLabel?, editable?, editable?, h.cluster_eq]
  · intro key _
    cases task with
    | cluster cluster =>
        have hagree : inv.AgreeOn inv' cluster := h
        exact getElem?_wanted_congr fun other _ _ => by rw [hagree.get?_eq other]
    | addOn cluster name =>
        have hagree : inv.AgreeOn inv' cluster := h
        rw [wantedBy, wantedBy, hagree.addOn?_eq hfallback]

theorem reconcile_congr (h : s.plan inv' task = s.plan inv task) (stopping : Bool)
    (send : Call → Except Failure Unit) :
    (reconcile s inv' stopping send task).calls = (reconcile s inv stopping send task).calls ∧
      (reconcile s inv' stopping send task).result =
        (reconcile s inv stopping send task).result := by
  rw [reconcile, reconcile, h]
  exact ⟨rfl, rfl⟩

/-- Where two inventories hold the same of what belongs to a cluster, its tasks plan and do the
same; only the task of an add-on that is unknown needs the same fallback, too. So an add-on without
a namespace makes no difference to any task but that of an unknown add-on of its name. -/
theorem plan_dependsOnOwnObjects (s : LabelSpace) (inv : Inventory) (task : Task) :
    (∀ inv', inv.AgreeOn inv' task.target → inv.SameFallback inv' task →
      s.plan inv' task = s.plan inv task ∧
      ∀ stopping send,
        (reconcile s inv' stopping send task).calls =
            (reconcile s inv stopping send task).calls ∧
          (reconcile s inv' stopping send task).result =
            (reconcile s inv stopping send task).result) ∧
    ∀ (a : AddOn) (event : WatchEvent AddOn), (event = .applied a ∨ event = .deleted a) →
      a.metadata.inNamespace = none →
      (∀ cluster, task = .addOn cluster a.metadata.givenName →
        inv.addOns.contents.get? ⟨some cluster, a.metadata.givenName⟩ ≠ none) →
      s.plan (inv.afterEvent event) task = s.plan inv task := by
  constructor
  · intro inv' hagree hfallback
    have hplan : s.plan inv' task = s.plan inv task := plan_eq_of_agreeOn hagree hfallback
    exact ⟨hplan, reconcile_congr hplan⟩
  · intro a event hevent hstray hknown
    apply plan_eq_of_agreeOn (agreeOn_afterEvent hevent hstray task.target)
    cases task with
    | cluster name => trivial
    | addOn cluster name =>
        intro hunknown
        apply get?_afterEvent_of_ne hevent
        intro hsame
        have hname : a.metadata.givenName = name := congrArg ObjectId.name hsame
        subst hname
        exact hknown cluster rfl hunknown

namespace Sample

def stray : AddOn where
  metadata := { name := some "a" }

def crowded : Inventory where
  clusters := .ofList [cluster, { metadata := { name := some "c2" } }]
  addOns := .ofList [stray, addOn, { metadata := { name := some "a", inNamespace := some "c2" } }]

theorem agreeOn_crowded : inventory.AgreeOn crowded "c1" := by
  have hadded : crowded.addOns.objects =
      [stray, addOn, { metadata := { name := some "a", inNamespace := some "c2" } }] := by
    decide +kernel
  have honly : inventory.addOns.objects = [addOn] := by decide +kernel
  constructor
  · decide +kernel
  · rintro a hspace
    rw [hadded, honly]
    constructor
    · intro hmem
      rcases List.mem_cons.mp hmem with rfl | hmem
      · contradiction
      · rcases List.mem_cons.mp hmem with rfl | hmem
        · exact List.mem_singleton_self _
        · rw [List.mem_singleton.mp hmem] at hspace
          contradiction
    · intro hmem
      rw [List.mem_singleton.mp hmem]
      simp

end Sample

theorem plan_dependsOnOwnObjects_sample :
    Sample.inventory.AgreeOn Sample.crowded "c1" ∧
    Sample.inventory.SameFallback Sample.crowded (.addOn "c1" "a") ∧
    LabelSpace.plan ⟨"example.com"⟩ Sample.crowded (.addOn "c1" "a") =
      LabelSpace.plan ⟨"example.com"⟩ Sample.inventory (.addOn "c1" "a") ∧
    Sample.stray.metadata.inNamespace = none ∧
    LabelSpace.plan ⟨"example.com"⟩ (Sample.inventory.afterEvent (.applied Sample.stray))
        (.addOn "c1" "a") =
      LabelSpace.plan ⟨"example.com"⟩ Sample.inventory (.addOn "c1" "a") := by
  have hknown : Sample.inventory.addOns.contents.get? ⟨some "c1", "a"⟩ ≠ none := by
    decide +kernel
  have hfallback : Sample.inventory.SameFallback Sample.crowded (.addOn "c1" "a") :=
    fun hunknown => absurd hunknown hknown
  obtain ⟨hagreeing, hstrays⟩ :=
    plan_dependsOnOwnObjects ⟨"example.com"⟩ Sample.inventory (.addOn "c1" "a")
  refine ⟨Sample.agreeOn_crowded, hfallback,
    (hagreeing _ Sample.agreeOn_crowded hfallback).1, rfl, ?_⟩
  apply hstrays Sample.stray _ (.inl rfl) rfl
  intro cluster htask
  rw [← (Task.addOn.inj htask).1]
  exact hknown

/-- To hold the same of what belongs to a cluster is not enough: the task of an unknown add-on takes
the health of a stray for the one that it looks for. -/
theorem plan_dependsOnStray :
    ¬ ∀ (s : LabelSpace) (inv inv' : Inventory) (task : Task),
      inv.AgreeOn inv' task.target → s.plan inv' task = s.plan inv task := by
  intro h
  let inv : Inventory := { clusters := .ofList [Sample.cluster] }
  have hsame := h ⟨"example.com"⟩ inv (inv.afterEvent (.applied Sample.stray)) (.addOn "c1" "a")
    (agreeOn_afterEvent (.inl rfl) rfl "c1")
  revert hsame
  decide +kernel

end FeatureLabels
