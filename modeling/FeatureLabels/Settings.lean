import FeatureLabels.Duration
import FeatureLabels.LabelSpace

namespace FeatureLabels

structure Settings where
  domain : String := LabelSpace.defaultDomain
  workers : Nat := 2
  maxRetryDelay : Duration := .ofSeconds 30
  resyncInterval : Duration := .ofSeconds 600
deriving DecidableEq, Repr

namespace Settings

/-- The longest delay after which work is taken up again: seven days. -/
def longestDelay : Duration := .ofSeconds (7 * 24 * 60 * 60)

def bounded (s : Settings) : Settings :=
  { s with
    workers := max s.workers 1
    maxRetryDelay := min s.maxRetryDelay longestDelay
    resyncInterval := min s.resyncInterval longestDelay }

def space (s : Settings) : LabelSpace := ⟨s.domain⟩

end Settings

end FeatureLabels
