namespace FeatureLabels

inductive Kind where
  | cluster
  | addOn
deriving DecidableEq, Repr

structure Definition where
  group : String
  version : String
  name : String
  singular : String
  plural : String
  scope : String
  shortNames : List String

namespace Definition

def apiVersion (d : Definition) : String := d.group ++ "/" ++ d.version

def fullName (d : Definition) : String := d.plural ++ "." ++ d.group

/-- The path under which objects of this kind are listed, in one namespace or in all. -/
def path (d : Definition) (inNamespace : Option String) : String :=
  let space := match inNamespace with
    | some space => "namespaces/" ++ space ++ "/"
    | none => ""
  "/apis/" ++ d.apiVersion ++ "/" ++ space ++ d.plural

end Definition

namespace Kind

def tag : Kind → String
  | .cluster => "cluster"
  | .addOn => "addon"

theorem tag_injective {a b : Kind} (h : a.tag = b.tag) : a = b := by
  cases a <;> cases b <;> simp [tag] at h ⊢

@[simp] theorem tag_inj {a b : Kind} : a.tag = b.tag ↔ a = b := ⟨tag_injective, congrArg tag⟩

def definition : Kind → Definition
  | .cluster =>
    { group := "cluster.open-cluster-management.io"
      version := "v1"
      name := "ManagedCluster"
      singular := "managedcluster"
      plural := "managedclusters"
      scope := "Cluster"
      shortNames := ["mcl"] }
  | .addOn =>
    { group := "addon.open-cluster-management.io"
      version := "v1alpha1"
      name := "ManagedClusterAddOn"
      singular := "managedclusteraddon"
      plural := "managedclusteraddons"
      scope := "Namespaced"
      shortNames := ["mca"] }

def name (kind : Kind) : String := kind.definition.name

end Kind

end FeatureLabels
