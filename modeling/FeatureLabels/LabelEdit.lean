import FeatureLabels.Json.Basic
import FeatureLabels.LabelMap

namespace FeatureLabels

structure LabelEdit where
  upserts : LabelMap := ∅
  removals : KeySet := ∅
deriving DecidableEq

namespace LabelEdit

def isEmpty (e : LabelEdit) : Bool := e.upserts.isEmpty && e.removals.isEmpty

def Names (e : LabelEdit) (key : String) : Prop := key ∈ e.upserts ∨ key ∈ e.removals

def applyTo (e : LabelEdit) (labels : LabelMap) : LabelMap :=
  (labels ∪ e.upserts).filter fun key _ => !e.removals.contains key

theorem getElem?_applyTo (e : LabelEdit) (labels : LabelMap) (key : String) :
    (e.applyTo labels)[key]? =
      if key ∈ e.removals then none else e.upserts[key]?.or labels[key]? := by
  rw [applyTo, Std.ExtTreeMap.getElem?_filter', Std.ExtTreeMap.getElem?_union]
  cases h : e.removals.contains key <;>
    cases e.upserts[key]?.or labels[key]? <;> simp [Std.ExtTreeSet.mem_iff_contains, h]

/-- What a change says about each of its keys: a value, or null for a key that goes. -/
def marks (e : LabelEdit) : Std.ExtTreeMap String Json :=
  e.removals.foldl (fun marks key => marks.insert key .null)
    (e.upserts.map fun _ value => .string value)

/-- The merge patch that carries a change to an object. -/
def document (e : LabelEdit) : Json :=
  .object [("metadata", .object [("labels", .object e.marks.toList)])]

end LabelEdit

end FeatureLabels
