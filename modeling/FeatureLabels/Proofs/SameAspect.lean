import Mathlib.Logic.Relation
import FeatureLabels.Proofs.FullResync

namespace FeatureLabels

open LabelSpace

namespace Inventory

def withCluster (inv : Inventory) (v : Cluster) : Inventory :=
  { inv with clusters.contents := inv.clusters.contents.insert v }

def withAddOn (inv : Inventory) (v : AddOn) : Inventory :=
  { inv with addOns.contents := inv.addOns.contents.insert v }

structure SameAspects (inv inv' : Inventory) : Prop where
  clusters : ∀ id, (inv'.clusters.contents.get? id).map Cluster.aspect =
    (inv.clusters.contents.get? id).map Cluster.aspect
  addOns : ∀ id, (inv'.addOns.contents.get? id).map AddOn.aspect =
    (inv.addOns.contents.get? id).map AddOn.aspect

variable {inv inv' : Inventory} {c v : Cluster} {a b : AddOn}

theorem sameAspects_withCluster (hc : inv.clusters.contents.get? (identity c) = some c)
    (hid : identity v = identity c) (haspect : v.aspect = c.aspect) :
    inv.SameAspects (inv.withCluster v) :=
  ⟨ObjectMap.map_get?_insert hc hid haspect, fun _ => rfl⟩

theorem sameAspects_withAddOn (ha : inv.addOns.contents.get? (identity a) = some a)
    (hid : identity b = identity a) (haspect : b.aspect = a.aspect) :
    inv.SameAspects (inv.withAddOn b) :=
  ⟨fun _ => rfl, ObjectMap.map_get?_insert ha hid haspect⟩

theorem shownLabel?_eq_aspect (inv : Inventory) (cluster key : String) :
    inv.shownLabel? cluster key =
      (((inv.clusters.contents.get? ⟨none, cluster⟩).map Cluster.aspect).filter fun seen =>
        !seen.terminating).map fun seen => seen.labels[key]? := by
  rw [shownLabel?, editable?, cluster?, Store.get?, Option.or_self]
  rcases inv.clusters.contents.get? ⟨none, cluster⟩ with _ | c
  · rfl
  · rcases hgone : c.metadata.isTerminating <;> simp [Option.filter_some, Cluster.aspect, hgone]

theorem SameAspects.map_addOn? (h : inv.SameAspects inv') (cluster name : String) :
    (inv'.addOn? cluster name).map AddOn.aspect = (inv.addOn? cluster name).map AddOn.aspect := by
  rw [addOn?, addOn?, Store.get?, Store.get?, Option.map_or, Option.map_or, h.addOns, h.addOns]

end Inventory

theorem LabelSpace.plan_eq_of_sameAspects {inv inv' : Inventory} (h : inv.SameAspects inv')
    (s : LabelSpace) (task : Task) : s.plan inv' task = s.plan inv task := by
  apply plan_congr
  · intro key _
    rw [Inventory.shownLabel?_eq_aspect, Inventory.shownLabel?_eq_aspect, h.clusters]
  · intro key _
    rcases task with cluster | ⟨cluster, name⟩
    · exact Inventory.getElem?_wanted_congr fun name _ _ => h.addOns ⟨some cluster, name⟩
    · exact Inventory.wanted_eq_of_aspect (h.map_addOn? cluster name)

namespace Condition

def reported (conditions : List Condition) : Option String :=
  (conditions.find? fun c => c.type == Health.conditionType).map Condition.status

/-- A change of a list of conditions that does not touch the first one of the type `Available`. -/
inductive Immaterial : List Condition → List Condition → Prop where
  | add {front back : List Condition} {c : Condition} (hother : c.type ≠ Health.conditionType) :
      Immaterial (front ++ back) (front ++ c :: back)
  | remove {front back : List Condition} {c : Condition} (hother : c.type ≠ Health.conditionType) :
      Immaterial (front ++ c :: back) (front ++ back)
  | swap {front back : List Condition} {c d : Condition}
      (hother : c.type ≠ Health.conditionType ∨ d.type ≠ Health.conditionType) :
      Immaterial (front ++ c :: d :: back) (front ++ d :: c :: back)
  | later {front back back' : List Condition}
      (hfirst : ∃ c ∈ front, c.type = Health.conditionType) :
      Immaterial (front ++ back) (front ++ back')

variable {conditions conditions' : List Condition}

theorem reported_append (front back : List Condition) :
    reported (front ++ back) = (reported front).or (reported back) := by
  rw [reported, List.find?_append, Option.map_or, reported, reported]

theorem reported_cons_of_ne {c : Condition} (hother : c.type ≠ Health.conditionType)
    (back : List Condition) : reported (c :: back) = reported back := by
  simp [reported, hother]

theorem reported_cons (c : Condition) (back : List Condition) :
    reported (c :: back) = (reported [c]).or (reported back) :=
  reported_append [c] back

theorem exists_reported {c : Condition} (hmem : c ∈ conditions)
    (htype : c.type = Health.conditionType) : ∃ text, reported conditions = some text := by
  rw [← Option.isSome_iff_exists, reported, Option.isSome_map, List.find?_isSome]
  exact ⟨c, hmem, beq_iff_eq.mpr htype⟩

theorem Immaterial.reported_eq (h : Immaterial conditions conditions') :
    reported conditions' = reported conditions := by
  cases h with
  | add hother => rw [reported_append, reported_append, reported_cons_of_ne hother]
  | remove hother => rw [reported_append, reported_append, reported_cons_of_ne hother]
  | @swap front back c d hother =>
      rw [reported_append, reported_append]
      rcases hother with hother | hother
      · rw [reported_cons_of_ne hother (d :: back), reported_cons d (c :: back),
          reported_cons_of_ne hother back, ← reported_cons d back]
      · rw [reported_cons_of_ne hother (c :: back), reported_cons c (d :: back),
          reported_cons_of_ne hother back, ← reported_cons c back]
  | later hfirst =>
      obtain ⟨c, hmem, htype⟩ := hfirst
      obtain ⟨text, htext⟩ := exists_reported hmem htype
      rw [reported_append, reported_append, htext, Option.some_or, Option.some_or]

theorem reported_eq_of_immaterial (h : Relation.ReflTransGen Immaterial conditions conditions') :
    reported conditions' = reported conditions := by
  induction h with
  | refl => rfl
  | tail _ hstep ih => rw [hstep.reported_eq, ih]

end Condition

namespace AddOn

open Condition

theorem report_eq_reported (a : AddOn) : a.report = reported a.conditions := by
  rw [report, verdicts, Health.report, reported, List.find?_map, Option.map_map]
  rfl

theorem health_eq_reported (a : AddOn) :
    a.health = Health.ofVerdict ((reported a.conditions).map Verdict.ofText) := by
  rw [← a.report_eq_reported]
  rfl

theorem aspect_eq_of_reported {a b : AddOn} (hmetadata : b.metadata = a.metadata)
    (hreported : reported b.conditions = reported a.conditions) : b.aspect = a.aspect := by
  rw [aspect, aspect, hmetadata, b.report_eq_reported, hreported,
    a.report_eq_reported]

end AddOn

/-- A cluster or an add-on can be replaced by any version of it that shows the same aspect without a
change to what is planned. Changes of an add-on's conditions that leave the first one of the type
`Available` alone change neither its aspect nor its health, and so no plan. -/
theorem sameAspect_samePlan (s : LabelSpace) (inv : Inventory) (task : Task) :
    (∀ c v : Cluster, inv.clusters.contents.get? (identity c) = some c →
      identity v = identity c → v.aspect = c.aspect →
      s.plan (inv.withCluster v) task = s.plan inv task) ∧
    (∀ a b : AddOn, inv.addOns.contents.get? (identity a) = some a →
      identity b = identity a → b.aspect = a.aspect →
      s.plan (inv.withAddOn b) task = s.plan inv task) ∧
    ∀ a b : AddOn, b.metadata = a.metadata →
      Relation.ReflTransGen Condition.Immaterial a.conditions b.conditions →
      b.aspect = a.aspect ∧ b.health = a.health ∧
        (inv.addOns.contents.get? (identity a) = some a →
          s.plan (inv.withAddOn b) task = s.plan inv task) := by
  refine ⟨?_, ?_, ?_⟩
  · intro c v hc hid haspect
    exact plan_eq_of_sameAspects (Inventory.sameAspects_withCluster hc hid haspect) s task
  · intro a b ha hid haspect
    exact plan_eq_of_sameAspects (Inventory.sameAspects_withAddOn ha hid haspect) s task
  · intro a b hmetadata hconditions
    have hreported := Condition.reported_eq_of_immaterial hconditions
    have haspect := AddOn.aspect_eq_of_reported hmetadata hreported
    refine ⟨haspect, ?_, ?_⟩
    · rw [a.health_eq_reported, b.health_eq_reported, hreported]
    · intro ha
      have hid : identity b = identity a := by
        simp only [identity, HasMetadata.metadata, hmetadata]
      exact plan_eq_of_sameAspects (Inventory.sameAspects_withAddOn ha hid haspect) s task

namespace Sample

def midnight : Timestamp where
  date := ⟨2024, 2, 29, by decide, by decide⟩
  hour := 0
  minute := 0
  second := 0
  hour_lt := by decide
  minute_lt := by decide
  second_le := by decide

def condition (type status : String) : Condition :=
  { type, status, lastTransitionTime := midnight }

def reporting (conditions : List Condition) : AddOn :=
  { addOn with status := some { conditions := some conditions } }

def oldConditions : List Condition :=
  [condition "Progressing" "True", condition "Available" "True", condition "Available" "False"]

def newConditions : List Condition :=
  [condition "Available" "True", condition "Available" "Unknown", condition "Degraded" "False"]

theorem immaterial_conditions :
    Relation.ReflTransGen Condition.Immaterial oldConditions newConditions := by
  have hremove : Condition.Immaterial oldConditions
      ([] ++ [condition "Available" "True", condition "Available" "False"]) :=
    show Condition.Immaterial ([] ++ condition "Progressing" "True" :: _) _ from .remove (by decide)
  have hlater : Condition.Immaterial
      ([condition "Available" "True"] ++ [condition "Available" "False"])
      ([condition "Available" "True"] ++
        [condition "Available" "Unknown", condition "Degraded" "False"]) :=
    .later ⟨_, List.mem_singleton_self _, rfl⟩
  exact .tail (.single hremove) hlater

def reportingInventory : Inventory where
  clusters := .ofList [cluster]
  addOns := .ofList [reporting oldConditions]

def acceptedCluster : Cluster :=
  { cluster with hubAcceptsClient := true, metadata.resourceVersion := some "2" }

end Sample

theorem sameAspect_samePlan_sample :
    Sample.reportingInventory.clusters.contents.get? (identity Sample.cluster) =
      some Sample.cluster ∧
    Sample.reportingInventory.addOns.contents.get?
        (identity (Sample.reporting Sample.oldConditions)) =
      some (Sample.reporting Sample.oldConditions) ∧
    LabelSpace.plan ⟨"example.com"⟩ (Sample.reportingInventory.withCluster Sample.acceptedCluster)
        (.cluster "c1") =
      LabelSpace.plan ⟨"example.com"⟩ Sample.reportingInventory (.cluster "c1") ∧
    (Sample.reporting Sample.newConditions).health =
      (Sample.reporting Sample.oldConditions).health ∧
    LabelSpace.plan ⟨"example.com"⟩
        (Sample.reportingInventory.withAddOn (Sample.reporting Sample.newConditions))
        (.addOn "c1" "a") =
      LabelSpace.plan ⟨"example.com"⟩ Sample.reportingInventory (.addOn "c1" "a") := by
  have hc : Sample.reportingInventory.clusters.contents.get? (identity Sample.cluster) =
      some Sample.cluster := by decide +kernel
  have ha : Sample.reportingInventory.addOns.contents.get?
      (identity (Sample.reporting Sample.oldConditions)) =
        some (Sample.reporting Sample.oldConditions) := by decide +kernel
  obtain ⟨hclusters, -, -⟩ :=
    sameAspect_samePlan ⟨"example.com"⟩ Sample.reportingInventory (.cluster "c1")
  obtain ⟨-, -, hconditions⟩ :=
    sameAspect_samePlan ⟨"example.com"⟩ Sample.reportingInventory (.addOn "c1" "a")
  obtain ⟨-, hhealth, hplan⟩ :=
    hconditions (Sample.reporting Sample.oldConditions) (Sample.reporting Sample.newConditions) rfl
      Sample.immaterial_conditions
  exact ⟨hc, ha, hclusters _ Sample.acceptedCluster hc rfl rfl, hhealth, hplan ha⟩

end FeatureLabels
