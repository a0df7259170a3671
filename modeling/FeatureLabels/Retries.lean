import FeatureLabels.Duration
import FeatureLabels.Task

/-!
Delays before failed work is tried again. They double with each failure of a task in a row, from
a base up to a cap, and start anew after a success.
-/

namespace FeatureLabels

def baseDelay : Duration := .ofMillis 5

/-- The longest delay, which is never shorter than the base. -/
structure DelayCap where
  cap : Duration
  base_le : baseDelay ≤ cap

namespace DelayCap

def ofMaximum (maximum : Duration) : DelayCap :=
  ⟨max maximum baseDelay, by simp only [Duration.le_iff, Duration.nanoseconds_max]; omega⟩

/-- The number of doublings after which a factor no longer fits into 32 bits. -/
def factorBits : Nat := 32

/-- The delay after `failures` earlier failures in a row. -/
def delay (c : DelayCap) (failures : Nat) : Duration :=
  if failures < factorBits then min (baseDelay.times (1 <<< failures)) c.cap else c.cap

end DelayCap

structure Retries where
  limit : DelayCap
  failures : Std.ExtTreeMap Task Nat Task.order := ∅

namespace Retries

def maxFailures : Nat := UInt32.size - 1

def ofMaximum (maximum : Duration) : Retries := { limit := .ofMaximum maximum }

def count (r : Retries) (task : Task) : Nat := r.failures[task]?.getD 0

def delay (r : Retries) (task : Task) : Duration := r.limit.delay (r.count task)

def fail (r : Retries) (task : Task) : Retries :=
  { r with failures := r.failures.insert task (min (r.count task + 1) maxFailures) }

def reset (r : Retries) (task : Task) : Retries :=
  { r with failures := r.failures.erase task }

theorem count_fail (r : Retries) (task other : Task) :
    (r.fail task).count other =
      if task = other then min (r.count task + 1) maxFailures else r.count other := by
  by_cases h : task = other <;> simp [count, fail, Std.ExtTreeMap.getElem?_insert, h]

theorem count_reset (r : Retries) (task other : Task) :
    (r.reset task).count other = if task = other then 0 else r.count other := by
  by_cases h : task = other <;> simp [count, reset, Std.ExtTreeMap.getElem?_erase, h]

end Retries

end FeatureLabels
