import FeatureLabels.Proofs.OwnObjects
import FeatureLabels.Proofs.TargetedResync
import FeatureLabels.Proofs.WriteSafety

namespace FeatureLabels

open LabelSpace

namespace Inventory

def extended (inv : Inventory) (more : List AddOn) : Inventory :=
  { inv with addOns.contents := more.foldl ObjectMap.insert inv.addOns.contents }

/-- Two inventories hold the same clusters, and the same add-ons of names that make label keys. -/
structure SameFitting (inv inv' : Inventory) : Prop where
  clusters_eq : inv'.clusters = inv.clusters
  get?_eq : ∀ id : ObjectId, fits id.name = true →
    inv'.addOns.contents.get? id = inv.addOns.contents.get? id

variable {inv inv' : Inventory} {cluster name : String}

theorem sameFitting_extended {more : List AddOn}
    (h : ∀ a ∈ more, fits a.metadata.givenName = false) :
    inv.SameFitting (inv.extended more) := by
  constructor
  · rfl
  · intro id hfits
    apply ObjectMap.get?_foldl_insert
    rintro a ha rfl
    exact absurd hfits (by simp [identity, HasMetadata.metadata, h a ha])

theorem SameFitting.addOn?_eq (h : inv.SameFitting inv') (hfits : fits name = true) :
    inv'.addOn? cluster name = inv.addOn? cluster name := by
  rw [addOn?, addOn?, Store.get?, Store.get?, h.get?_eq _ hfits, h.get?_eq _ hfits]

end Inventory

variable {s : LabelSpace} {inv inv' : Inventory} {task : Task} {name : String}

theorem LabelSpace.fits_eq_false_iff :
    fits name = false ↔ name = "" ∨ 57 < name.utf8ByteSize := by
  rw [← Bool.not_eq_true, fits_iff, ← String.utf8ByteSize_eq_zero_iff]
  omega

theorem LabelSpace.plan_eq_of_sameFitting (h : inv.SameFitting inv') :
    s.plan inv' task = s.plan inv task := by
  apply plan_congr
  · intro key _
    rw [Inventory.shownLabel?, Inventory.shownLabel?, Inventory.editable?, Inventory.editable?,
      Inventory.cluster?, Inventory.cluster?, h.clusters_eq]
  · intro key hcovers
    cases task with
    | cluster cluster =>
        apply Inventory.getElem?_wanted_congr
        intro name hfits _
        rw [h.get?_eq _ hfits]
    | addOn cluster name => rw [wantedBy, wantedBy, h.addOn?_eq hcovers.1]

/-- Add-ons whose names are empty or too long change nothing about any task, however many there are
and wherever they are; and the task of such an add-on plans nothing, whatever its cluster shows. -/
theorem misfits_disturbNothing (s : LabelSpace) (inv : Inventory) {misfits : List AddOn}
    (h : ∀ a ∈ misfits, fits a.metadata.givenName = false) :
    (∀ task, s.plan (inv.extended misfits) task = s.plan inv task ∧
      ∀ stopping send,
        (reconcile s (inv.extended misfits) stopping send task).calls =
            (reconcile s inv stopping send task).calls ∧
          (reconcile s (inv.extended misfits) stopping send task).result =
            (reconcile s inv stopping send task).result) ∧
    (∀ a ∈ misfits, ∀ (known : Inventory) (cluster : String),
      s.plan known (.addOn cluster a.metadata.givenName) = none) ∧
    ∀ name, fits name = false ↔ name = "" ∨ 57 < name.utf8ByteSize := by
  refine ⟨?_, ?_, fun _ => fits_eq_false_iff⟩
  · intro task
    have hplan : s.plan (inv.extended misfits) task = s.plan inv task :=
      plan_eq_of_sameFitting (Inventory.sameFitting_extended h)
    exact ⟨hplan, reconcile_congr hplan⟩
  · intro a ha known cluster
    exact plan_addOn_of_not_fits (h a ha)

namespace Sample

def longName : String := "a-name-of-fifty-eight-bytes-that-is-too-long-for-label-key"

def nameless : AddOn where
  metadata := { inNamespace := some "c1" }

def longNamed : AddOn where
  metadata := { name := some longName, inNamespace := some "c1" }

def overlabelled : Inventory where
  clusters := .ofList
    [{ metadata :=
        { name := some "c1"
          labels := some <| .ofPairs
            [("feature.example.com/addon-" ++ longName, "available")] } }]

end Sample

theorem misfits_disturbNothing_sample :
    (∀ a ∈ [Sample.nameless, Sample.longNamed], fits a.metadata.givenName = false) ∧
    LabelSpace.plan ⟨"example.com"⟩ (Sample.inventory.extended [Sample.nameless, Sample.longNamed])
        (.cluster "c1") =
      LabelSpace.plan ⟨"example.com"⟩ Sample.inventory (.cluster "c1") ∧
    LabelSpace.plan ⟨"example.com"⟩ Sample.overlabelled (.addOn "c1" Sample.longName) = none := by
  have hmisfits : ∀ a ∈ [Sample.nameless, Sample.longNamed], fits a.metadata.givenName = false := by
    decide +kernel
  obtain ⟨hplans, hnone, -⟩ :=
    misfits_disturbNothing ⟨"example.com"⟩ Sample.inventory hmisfits
  exact ⟨hmisfits, (hplans (.cluster "c1")).1,
    hnone Sample.longNamed (by simp) Sample.overlabelled "c1"⟩

end FeatureLabels
