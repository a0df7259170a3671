import FeatureLabels.Fleet
import FeatureLabels.Main
import FeatureLabels.Signal
import FeatureLabels.TraceId
import FeatureLabels.Web
import FeatureLabels.Json.Merge
import FeatureLabels.Proofs.EditEffect
import FeatureLabels.Proofs.PlanEffect
import FeatureLabels.Proofs.FullResync
import FeatureLabels.Proofs.TargetedResync
import FeatureLabels.Proofs.OverlappingResyncs
import FeatureLabels.Proofs.WaitingWork
import FeatureLabels.Proofs.ControlLoop
import FeatureLabels.Proofs.QuiescentConsistency
import FeatureLabels.Proofs.WriteSafety
import FeatureLabels.Proofs.Shift
import FeatureLabels.Proofs.CompleteView
import FeatureLabels.Proofs.RetryHistory
import FeatureLabels.Proofs.SmallestEdit
import FeatureLabels.Proofs.Stopping
import FeatureLabels.Proofs.OwnObjects
import FeatureLabels.Proofs.SeparateDomains
import FeatureLabels.Proofs.MetricsAccount
import FeatureLabels.Proofs.PatchMeaning
import FeatureLabels.Proofs.SameAspect
import FeatureLabels.Proofs.Misfits
import FeatureLabels.Proofs.Incarnations
import FeatureLabels.Proofs.LastHolder
import FeatureLabels.Proofs.ExactDelays
import FeatureLabels.Proofs.NormalObjects
import FeatureLabels.Proofs.QualifiedKeys
import FeatureLabels.Proofs.TaskNames
import FeatureLabels.Proofs.SpelledArguments
import FeatureLabels.Proofs.EffectiveSettings
