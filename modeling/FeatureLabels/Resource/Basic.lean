import FeatureLabels.Health
import FeatureLabels.Json.Basic
import FeatureLabels.LabelMap
import FeatureLabels.Timestamp
import FeatureLabels.Resource.Kind

namespace FeatureLabels

/-- Who writes which fields of an object, and when that was last done. -/
structure ManagedFields where
  manager : Option String := none
  operation : Option String := none
  subresource : Option String := none
  apiVersion : Option String := none
  time : Option Timestamp := none
  fieldsType : Option String := none
  fields : Option Json := none
deriving DecidableEq

structure OwnerReference where
  apiVersion : String := ""
  kind : String := ""
  name : String := ""
  uid : String := ""
  controller : Option Bool := none
  blockOwnerDeletion : Option Bool := none
deriving DecidableEq

structure Metadata where
  name : Option String := none
  generateName : Option String := none
  inNamespace : Option String := none
  labels : Option LabelMap := none
  annotations : Option LabelMap := none
  generation : Option Int := none
  creationTimestamp : Option Timestamp := none
  deletionTimestamp : Option Timestamp := none
  deletionGracePeriodSeconds : Option Int := none
  finalizers : Option (List String) := none
  managedFields : Option (List ManagedFields) := none
  ownerReferences : Option (List OwnerReference) := none
  resourceVersion : Option String := none
  selfLink : Option String := none
  uid : Option String := none
deriving DecidableEq

namespace Metadata

/-- The name of an object, or else the stem from which a name is to be made. -/
def givenName (m : Metadata) : String := (m.name.or m.generateName).getD ""

/-- An object with a deletion timestamp is on its way out. -/
def isTerminating (m : Metadata) : Bool := m.deletionTimestamp.isSome

def labelMap (m : Metadata) : LabelMap := m.labels.getD ∅

end Metadata

structure Cluster where
  metadata : Metadata := {}
  hubAcceptsClient : Bool := false
  leaseDurationSeconds : Option Int := none
deriving DecidableEq

structure Condition where
  type : String
  status : String
  lastTransitionTime : Timestamp
  reason : String := ""
  message : String := ""
  observedGeneration : Option Int := none
deriving DecidableEq

structure AddOnStatus where
  conditions : Option (List Condition) := none
deriving DecidableEq

/-- An add-on, which lives in the namespace named after its cluster. -/
structure AddOn where
  metadata : Metadata := {}
  installNamespace : Option String := none
  status : Option AddOnStatus := none
deriving DecidableEq

namespace AddOn

def conditions (a : AddOn) : List Condition := (a.status.bind AddOnStatus.conditions).getD []

def verdicts (a : AddOn) : List (String × String) :=
  a.conditions.map fun c => (c.type, c.status)

def report (a : AddOn) : Option String := Health.report a.verdicts

def health (a : AddOn) : Health := Health.ofConditions a.verdicts

end AddOn

structure ObjectId where
  inNamespace : Option String
  name : String
deriving DecidableEq, Repr

namespace ObjectId

def order : ObjectId → ObjectId → Ordering :=
  compareLex (compareOn inNamespace) (compareOn name)

instance : Std.TransCmp order := inferInstanceAs (Std.TransCmp (compareLex _ _))

instance : Std.LawfulEqCmp order where
  eq_of_compare {a b} h := by
    obtain ⟨s, n⟩ := a
    obtain ⟨s', n'⟩ := b
    simp only [order, compareLex, compareOn, Ordering.then_eq_eq, Std.compare_eq_iff_eq] at h
    simp [h.1, h.2]

end ObjectId

class HasMetadata (α : Type) where
  metadata : α → Metadata
  setMetadata : α → Metadata → α

instance : HasMetadata Cluster where
  metadata := Cluster.metadata
  setMetadata c m := { c with metadata := m }

instance : HasMetadata AddOn where
  metadata := AddOn.metadata
  setMetadata a m := { a with metadata := m }

def identity {α : Type} [HasMetadata α] (object : α) : ObjectId :=
  ⟨(HasMetadata.metadata object).inNamespace, (HasMetadata.metadata object).givenName⟩

end FeatureLabels
