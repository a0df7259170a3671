import FeatureLabels.Proofs.MergeDocument
import FeatureLabels.Proofs.PlanEffect

namespace FeatureLabels

open LabelEdit

def Json.patched (doc : Json) (calls : List Call) : Json :=
  calls.foldl (fun doc call => doc.merge call.edit.document) doc

namespace LabelSpace

/-- A key shows the health of the one add-on of a cluster that holds it, and nothing if there is
no such add-on. -/
def Shows (s : LabelSpace) (inv : Inventory) (cluster : String) (labels : LabelMap)
    (key : String) : Prop :=
  (∃ a ∈ inv.addOnsOf cluster, s.Holds a key ∧
    (∀ b ∈ inv.addOnsOf cluster, s.Holds b key → b = a) ∧ labels[key]? = some a.health.text) ∨
  ((∀ a ∈ inv.addOnsOf cluster, ¬ s.Holds a key) ∧ labels[key]? = none)

/-- The owned labels are what the add-ons of a cluster report, and the others are as before. -/
structure Settled (s : LabelSpace) (inv : Inventory) (cluster : String)
    (before labels : LabelMap) : Prop where
  owned : ∀ key, s.owns key = true → s.Shows inv cluster labels key
  foreign : ∀ key : String, s.owns key = false → labels[key]? = before[key]?

variable {s : LabelSpace} {inv : Inventory} {cluster name : String} {c : Cluster}
  {before labels : LabelMap} {task : Task}

theorem shows_iff {key : String} :
    s.Shows inv cluster labels key ↔ labels[key]? = (s.wantedOn inv cluster)[key]? := by
  rw [Shows, wantedOn]
  constructor
  · rintro (⟨a, ha, hholds, -, hlabel⟩ | ⟨hnone, hlabel⟩)
    · rw [hlabel, Inventory.getElem?_wanted_addOnsOf ha hholds]
    · rw [hlabel, getElem?_wanted_eq_none hnone]
  · intro h
    by_cases hex : ∃ a ∈ inv.addOnsOf cluster, s.Holds a key
    · obtain ⟨a, ha, hholds⟩ := hex
      refine .inl ⟨a, ha, hholds, fun b hb hbKey => Inventory.eq_of_holds ha hb hholds hbKey, ?_⟩
      rw [h, Inventory.getElem?_wanted_addOnsOf ha hholds]
    · have hnone : ∀ a ∈ inv.addOnsOf cluster, ¬ s.Holds a key :=
        fun a ha hholds => hex ⟨a, ha, hholds⟩
      exact .inr ⟨hnone, h.trans (getElem?_wanted_eq_none hnone)⟩

theorem settled_after_plan (hc : inv.editable? name = some c) :
    s.Settled inv name c.metadata.labelMap
      (after (s.plan inv (.cluster name)) c.metadata.labelMap) := by
  constructor
  · intro key hown
    rw [shows_iff, getElem?_after, effect?_plan_cluster hc]
    by_cases heq : c.metadata.labelMap[key]? = (s.wantedOn inv name)[key]?
    · simp [heq]
    · simp [Covers, hown, heq]
  · intro key hforeign
    rw [getElem?_after, effect?_plan_cluster hc]
    simp [Covers, hforeign]

theorem plan_cluster_eq_none_iff (hc : inv.editable? name = some c) :
    s.plan inv (.cluster name) = none ↔
      s.Settled inv name c.metadata.labelMap c.metadata.labelMap := by
  constructor
  · intro hnone
    have hsettled := settled_after_plan (s := s) hc
    rwa [hnone] at hsettled
  · intro hsettled
    refine (effect?_eq_none_iff fun _ => tidy_plan).mp fun key => ?_
    rw [effect?_plan_cluster hc, if_neg]
    rintro ⟨hown, hne⟩
    exact hne (shows_iff.mp (hsettled.owned key hown))

end LabelSpace

namespace Json

theorem shownLabels?_patched_plan {doc : Json} {labels : LabelMap} (cluster : String)
    (edit : Option LabelEdit) (h : doc.shownLabels? = some labels) :
    (doc.patched (edit.toList.map (Call.mk cluster))).shownLabels? = some (after edit labels) := by
  cases edit with
  | none => exact h
  | some e => exact shownLabels?_merge e h

end Json

open LabelSpace

/-- A full resync of a cluster, whose document shows the labels that are known, leaves it with
settled labels. It makes no request just when they are settled already, so that a resync on what
is known afterwards makes none. -/
theorem fullResync_settles (s : LabelSpace) (inv : Inventory) {name : String} {c : Cluster}
    (hc : inv.cluster? name = some c) (hlive : c.metadata.isTerminating = false)
    (send : Call → Except Failure Unit) (hsend : ∀ edit, send ⟨name, edit⟩ = .ok ())
    {doc : Json} (hdoc : doc.shownLabels? = some c.metadata.labelMap) :
    let resync := reconcile s inv false send (.cluster name)
    (∀ call ∈ resync.calls, call.cluster = name) ∧
    (resync.calls = [] ↔ s.Settled inv name c.metadata.labelMap c.metadata.labelMap) ∧
    (resync.result = .ok none ↔ s.Settled inv name c.metadata.labelMap c.metadata.labelMap) ∧
    ∃ labels, (doc.patched resync.calls).shownLabels? = some labels ∧
      s.Settled inv name c.metadata.labelMap labels ∧
      ∀ (refreshed : Inventory) (c' : Cluster) (stopping : Bool)
        (send' : Call → Except Failure Unit),
        refreshed.addOns = inv.addOns → refreshed.cluster? name = some c' →
        c'.metadata.isTerminating = false → c'.metadata.labelMap = labels →
        (reconcile s refreshed stopping send' (.cluster name)).calls = [] ∧
          (reconcile s refreshed stopping send' (.cluster name)).result = .ok none := by
  have hedit : inv.editable? name = some c := Inventory.editable?_eq_some_iff.mpr ⟨hc, hlive⟩
  intro resync
  have hcalls : resync.calls = (s.plan inv (.cluster name)).toList.map (Call.mk name) :=
    calls_reconcile s inv send (.cluster name)
  have hresult : resync.result = .ok (s.plan inv (.cluster name)) := result_reconcile hsend
  refine ⟨?_, ?_, ?_, after (s.plan inv (.cluster name)) c.metadata.labelMap, ?_,
    settled_after_plan hedit, ?_⟩
  · intro call hcall
    rw [hcalls] at hcall
    obtain ⟨edit, -, rfl⟩ := List.mem_map.mp hcall
    rfl
  · rw [hcalls, ← plan_cluster_eq_none_iff hedit]
    simp
  · rw [hresult, ← plan_cluster_eq_none_iff hedit]
    simp
  · rw [hcalls]
    exact Json.shownLabels?_patched_plan name _ hdoc
  · intro refreshed c' stopping send' haddOns hc' hlive' hlabels
    have hedit' : refreshed.editable? name = some c' :=
      Inventory.editable?_eq_some_iff.mpr ⟨hc', hlive'⟩
    have hsettled := settled_after_plan (s := s) hedit
    apply reconcile_of_plan_eq_none
    rw [plan_cluster_eq_none_iff hedit', hlabels]
    constructor
    · intro key hown
      have hshows := shows_iff.mp (hsettled.owned key hown)
      rw [shows_iff, hshows, wantedOn, wantedOn, Inventory.addOnsOf, Inventory.addOnsOf, haddOns]
    · intro key _
      rfl

namespace Sample

def cluster : Cluster where
  metadata :=
    { name := some "c1"
      labels := some <| .ofPairs
        [("feature.example.com/addon-a", "unhealthy"),
         ("feature.example.com/addon-gone", "available"), ("vendor", "Kind")] }

def addOn : AddOn where
  metadata := { name := some "a", inNamespace := some "c1", generation := some 1 }

def inventory : Inventory where
  clusters := .ofList [cluster]
  addOns := .ofList [addOn]

end Sample

theorem fullResync_settles_sample :
    Sample.inventory.cluster? "c1" = some Sample.cluster ∧
    Sample.cluster.metadata.isTerminating = false ∧
    Sample.cluster.toJson.shownLabels? = some Sample.cluster.metadata.labelMap ∧
    ∃ settled,
      (Sample.cluster.toJson.patched (reconcile ⟨"example.com"⟩ Sample.inventory false
        (fun _ => .ok ()) (.cluster "c1")).calls).shownLabels? = some settled ∧
      LabelSpace.Settled ⟨"example.com"⟩ Sample.inventory "c1" Sample.cluster.metadata.labelMap
        settled := by
  have hc : Sample.inventory.cluster? "c1" = some Sample.cluster := rfl
  have hdoc : Sample.cluster.toJson.shownLabels? = some Sample.cluster.metadata.labelMap := rfl
  obtain ⟨-, -, -, settled, hshown, hsettled, -⟩ :=
    fullResync_settles ⟨"example.com"⟩ Sample.inventory hc rfl (fun _ => .ok ())
      (fun _ => rfl) hdoc
  exact ⟨hc, rfl, hdoc, settled, hshown, hsettled⟩

end FeatureLabels
