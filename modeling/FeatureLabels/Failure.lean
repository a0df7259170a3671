import FeatureLabels.Resource.Kind
import FeatureLabels.Text.Quoted

namespace FeatureLabels

structure ApiStatus where
  status : String
  message : String
  reason : String
  code : Nat
deriving DecidableEq, Repr

inductive ApiFailure where
  | refused (status : ApiStatus)
  | nameless
  /-- The request was accepted, but the answer holds no object of the right kind. -/
  | unreadable
  | unconfigured
deriving DecidableEq, Repr

inductive MetricsFailure where
  | duplicate
  | other (text : String)
deriving DecidableEq, Repr

inductive Failure where
  | api (failure : ApiFailure)
  | metrics (failure : MetricsFailure)
  /-- The program is stopping, and a change of labels was held back. -/
  | cancelled
  /-- The first list of a kind of object will never come. -/
  | neverReady (kind : Kind)
deriving DecidableEq, Repr

def ApiStatus.record (s : ApiStatus) : String :=
  "ErrorResponse \x7b status: " ++ Text.quoted s.status ++ ", message: " ++ Text.quoted s.message ++
    ", reason: " ++ Text.quoted s.reason ++ ", code: " ++ toString s.code ++ " \x7d"

def ApiFailure.message : ApiFailure → String
  | .refused s => "ApiError: " ++ s.message ++ ": " ++ s.reason ++ " (" ++ s.record ++ ")"
  | .nameless => "Failed to build request: failed to validate request: A non-empty name is required"
  | .unreadable => "Error deserializing response"
  | .unconfigured => "Failed to infer configuration"

def MetricsFailure.message : MetricsFailure → String
  | .duplicate => "Duplicate metrics collector registration attempted"
  | .other text => "Error: " ++ text

namespace Failure

def label : Failure → String
  | .api _ => "KubeError"
  | .metrics _ => "MetricsError"
  | .cancelled => "Cancelled"
  | .neverReady _ => "CacheNotReady"

def labels : List String := ["KubeError", "MetricsError", "Cancelled", "CacheNotReady"]

def message : Failure → String
  | .api failure => "Kube Error: " ++ failure.message
  | .metrics failure => "Metrics Error: " ++ failure.message
  | .cancelled => "Reconcile was cancelled before the label patch was sent"
  | .neverReady kind => "The " ++ kind.name ++ " cache never became ready"

end Failure

end FeatureLabels
