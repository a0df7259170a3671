import FeatureLabels.Store

namespace FeatureLabels

structure Inventory where
  clusters : Store Cluster := {}
  addOns : Store AddOn := {}

namespace Inventory

def cluster? (inv : Inventory) (name : String) : Option Cluster :=
  inv.clusters.get? ⟨none, name⟩

/-- The cluster of that name, if it is not on its way out. -/
def editable? (inv : Inventory) (name : String) : Option Cluster :=
  (inv.cluster? name).filter fun c => !c.metadata.isTerminating

def addOn? (inv : Inventory) (cluster name : String) : Option AddOn :=
  inv.addOns.get? ⟨some cluster, name⟩

def addOnsOf (inv : Inventory) (cluster : String) : List AddOn :=
  inv.addOns.objects.filter fun a => a.metadata.inNamespace == some cluster

/-- Readiness of the whole: clusters are waited for first. The kind is that of the store in
question. -/
def readiness (inv : Inventory) : Readiness × Kind :=
  match inv.clusters.readiness with
  | .ready => (inv.addOns.readiness, .addOn)
  | other => (other, .cluster)

end Inventory

end FeatureLabels
