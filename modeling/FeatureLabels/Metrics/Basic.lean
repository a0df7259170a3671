import FeatureLabels.Failure
import FeatureLabels.Metrics.Seconds
import FeatureLabels.Task

namespace FeatureLabels

abbrev SeriesMap (α : Type) := Std.ExtTreeMap (List String) α

/-- The bounds of the histogram's buckets, in milliseconds. -/
def bucketBounds : List Nat := [10, 100, 250, 500, 1000, 5000, 15000, 60000]

structure Histogram where
  count : Nat := 0
  sum : Seconds := ⟨0⟩
  /-- For each bound, how many spans were no longer. -/
  within : List Nat := bucketBounds.map fun _ => 0
deriving DecidableEq, Repr

namespace Histogram

def observe (h : Histogram) (millis : Nat) : Histogram where
  count := h.count + 1
  sum := h.sum + .ofMillis millis
  within := List.zipWith (fun bound n => if millis ≤ bound then n + 1 else n) bucketBounds h.within

end Histogram

structure Metrics where
  reconciliations : Nat := 0
  durations : SeriesMap Histogram := ∅
  failures : SeriesMap Nat := ∅
  patches : SeriesMap Nat := ∅

namespace Metrics

def increment (series : SeriesMap Nat) (labels : List String) : SeriesMap Nat :=
  series.insert labels (series[labels]?.getD 0 + 1)

def begin (m : Metrics) : Metrics := { m with reconciliations := m.reconciliations + 1 }

def finish (m : Metrics) (kind : Kind) (millis : Nat) : Metrics :=
  { m with
    durations := m.durations.insert [kind.tag] ((m.durations[[kind.tag]]?.getD {}).observe millis) }

def countFailure (m : Metrics) (kind : Kind) (failure : Failure) : Metrics :=
  { m with failures := increment m.failures [failure.label, kind.tag] }

def countPatch (m : Metrics) (kind : Kind) : Metrics :=
  { m with patches := increment m.patches [kind.tag] }

def samples (m : Metrics) (kind : Kind) : Nat :=
  ((m.durations[[kind.tag]]?).map Histogram.count).getD 0

def failuresOf (m : Metrics) (kind : Kind) (label : String) : Nat :=
  m.failures[[label, kind.tag]]?.getD 0

def patchesOf (m : Metrics) (kind : Kind) : Nat := m.patches[[kind.tag]]?.getD 0

variable (m : Metrics) (kind other : Kind) (millis : Nat) (failure : Failure) (label : String)

theorem getD_increment (series : SeriesMap Nat) (labels others : List String) :
    (increment series others)[labels]?.getD 0 =
      series[labels]?.getD 0 + if others = labels then 1 else 0 := by
  by_cases h : others = labels <;> simp [increment, Std.ExtTreeMap.getElem?_insert, h]

theorem samples_finish :
    (m.finish other millis).samples kind = m.samples kind + if other = kind then 1 else 0 := by
  by_cases h : other = kind
  · subst h
    cases hseries : m.durations[[other.tag]]? <;>
      simp [samples, finish, hseries, Histogram.observe]
  · simp [samples, finish, Std.ExtTreeMap.getElem?_insert, h]

theorem failuresOf_countFailure :
    (m.countFailure other failure).failuresOf kind label =
      m.failuresOf kind label + if other = kind ∧ failure.label = label then 1 else 0 := by
  simp only [failuresOf, countFailure, getD_increment, List.cons_eq_cons, true_and, Kind.tag_inj,
    and_comm]

theorem patchesOf_countPatch :
    (m.countPatch other).patchesOf kind = m.patchesOf kind + if other = kind then 1 else 0 := by
  simp only [patchesOf, countPatch, getD_increment, List.singleton_inj, Kind.tag_inj]

@[simp] theorem failuresOf_finish :
    (m.finish other millis).failuresOf kind label = m.failuresOf kind label := rfl

@[simp] theorem patchesOf_finish :
    (m.finish other millis).patchesOf kind = m.patchesOf kind := rfl

@[simp] theorem samples_countFailure :
    (m.countFailure other failure).samples kind = m.samples kind := rfl

@[simp] theorem patchesOf_countFailure :
    (m.countFailure other failure).patchesOf kind = m.patchesOf kind := rfl

@[simp] theorem samples_countPatch : (m.countPatch other).samples kind = m.samples kind := rfl

@[simp] theorem failuresOf_countPatch :
    (m.countPatch other).failuresOf kind label = m.failuresOf kind label := rfl

end Metrics

end FeatureLabels
