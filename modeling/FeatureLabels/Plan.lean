import FeatureLabels.Inventory
import FeatureLabels.LabelSpace
import FeatureLabels.LogLine
import FeatureLabels.Task

namespace FeatureLabels

namespace LabelSpace

/-- The label that an add-on wants on its cluster. An add-on on its way out wants none, and
neither does one whose name makes no label key. -/
def wantedLabel (s : LabelSpace) (a : AddOn) : Option (String × String) :=
  if a.metadata.isTerminating then none
  else if fits a.metadata.givenName then some (s.key a.metadata.givenName, a.health.text)
  else none

/-- The labels that a list of add-ons wants. Of two add-ons with one name the later one wins. -/
def wanted (s : LabelSpace) (addOns : List AddOn) : LabelMap :=
  LabelMap.ofPairs (addOns.filterMap s.wantedLabel)

def plan (s : LabelSpace) (inv : Inventory) (task : Task) : Option LabelEdit :=
  (inv.editable? task.target).bind fun c =>
    match task with
    | .cluster name => s.diff c.metadata.labelMap (s.wanted (inv.addOnsOf name))
    | .addOn cluster name =>
      if fits name then
        s.diffOne c.metadata.labelMap name <|
          ((inv.addOn? cluster name).filter fun a => !a.metadata.isTerminating).map AddOn.health
      else none

def misfitLine (cluster name : String) : LogLine :=
  ⟨.warn, s!"ManagedClusterAddOn {cluster}/{name} has a name too long for a label key, skipping"⟩

def misfitLines (addOns : List AddOn) : List LogLine :=
  (addOns.filter fun a => !a.metadata.isTerminating && !fits a.metadata.givenName).map fun a =>
    misfitLine (a.metadata.inNamespace.getD "") a.metadata.givenName

def planLines (inv : Inventory) (task : Task) : List LogLine :=
  match inv.cluster? task.target with
  | none => [⟨.debug, s!"ManagedCluster {task.target} not found, skipping"⟩]
  | some c =>
    if c.metadata.isTerminating then
      [⟨.debug, s!"ManagedCluster {task.target} is terminating, skipping"⟩]
    else
      match task with
      | .cluster name => misfitLines (inv.addOnsOf name)
      | .addOn cluster name => if fits name then [] else [misfitLine cluster name]

end LabelSpace

end FeatureLabels
