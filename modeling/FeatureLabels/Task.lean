import FeatureLabels.Resource.Basic

namespace FeatureLabels

inductive Task where
  | cluster (name : String)
  | addOn (ofCluster name : String)
deriving DecidableEq, Repr

namespace Task

def target : Task → String
  | .cluster c => c
  | .addOn c _ => c

def kind : Task → Kind
  | .cluster _ => .cluster
  | .addOn _ _ => .addOn

def text : Task → String
  | .cluster c => c
  | .addOn c a => c ++ "/" ++ a

def ofCluster (c : Cluster) : Task := .cluster c.metadata.givenName

/-- The task of an add-on. Add-ons live in the namespace of their cluster; one without a
namespace belongs to no cluster. -/
def ofAddOn? (a : AddOn) : Option Task :=
  a.metadata.inNamespace.map fun c => .addOn c a.metadata.givenName

theorem ofAddOn?_eq_none {a : AddOn} (h : a.metadata.inNamespace = none) : ofAddOn? a = none := by
  rw [ofAddOn?, h, Option.map_none]

/-- The place of a task in the order of tasks: clusters first, then by cluster and add-on. -/
def rank : Task → Nat × String × String
  | .cluster c => (0, c, "")
  | .addOn c a => (1, c, a)

theorem rank_injective {a b : Task} (h : a.rank = b.rank) : a = b := by
  cases a <;> cases b <;> simp_all [rank]

def order : Task → Task → Ordering :=
  compareLex (compareOn fun t => t.rank.1)
    (compareLex (compareOn fun t => t.rank.2.1) (compareOn fun t => t.rank.2.2))

instance : Std.TransCmp order := inferInstanceAs (Std.TransCmp (compareLex _ _))

instance : Std.LawfulEqCmp order where
  eq_of_compare {a b} h := by
    simp only [order, compareLex, compareOn, Ordering.then_eq_eq, Std.compare_eq_iff_eq] at h
    exact rank_injective (Prod.ext h.1 (Prod.ext h.2.1 h.2.2))

end Task

end FeatureLabels
