import FeatureLabels.Metrics.Basic

namespace FeatureLabels.Metrics

def nameStem : String := "addon_discovery_"

def valueLine (name : String) (labels : List (String × String)) (value : String) : String :=
  let written := labels.map fun l => l.1 ++ "=\"" ++ l.2 ++ "\""
  let block := if labels.isEmpty then "" else "\x7b" ++ ",".intercalate written ++ "\x7d"
  name ++ block ++ " " ++ value

def family (name help kind : String) (lines : List String) : List String :=
  if lines.isEmpty then []
  else ["# HELP " ++ name ++ " " ++ help, "# TYPE " ++ name ++ " " ++ kind] ++ lines

def counterLines (name : String) (labelNames : List String) (series : SeriesMap Nat) :
    List String :=
  series.toList.map fun s => valueLine name (labelNames.zip s.1) (toString s.2)

def boundTexts : List String := ["0.01", "0.1", "0.25", "0.5", "1", "5", "15", "60"]

def histogramLines (name : String) (labels : List (String × String)) (h : Histogram) :
    List String :=
  (boundTexts.zip h.within).map (fun b =>
      valueLine (name ++ "_bucket") (labels ++ [("le", b.1)]) (toString b.2)) ++
    [valueLine (name ++ "_bucket") (labels ++ [("le", "+Inf")]) (toString h.count),
     valueLine (name ++ "_sum") labels h.sum.text,
     valueLine (name ++ "_count") labels (toString h.count)]

def patchesName : String := nameStem ++ "label_patches_total"

def durationsName : String := nameStem ++ "reconcile_duration_seconds"

def failuresName : String := nameStem ++ "reconciliation_errors_total"

def reconciliationsName : String := nameStem ++ "reconciliations_total"

def lines (m : Metrics) : List String :=
  family patchesName "label patches sent to ManagedClusters" "counter"
      (counterLines patchesName ["kind"] m.patches) ++
    family durationsName "The duration of reconcile to complete in seconds" "histogram"
      (m.durations.toList.flatMap fun s => histogramLines durationsName (["kind"].zip s.1) s.2) ++
    family failuresName "reconciliation errors" "counter"
      (counterLines failuresName ["error", "kind"] m.failures) ++
    family reconciliationsName "reconciliations" "counter"
      [valueLine reconciliationsName [] (toString m.reconciliations)]

def text (m : Metrics) : String := String.join (m.lines.map (· ++ "\n"))

/-- Each family that has series: its name, and its series with their values. The value of a
histogram is the number of its samples. -/
def totals (m : Metrics) : List (String × List (List String × Nat)) :=
  [(patchesName, m.patches.toList),
   (durationsName, m.durations.toList.map fun s => (s.1, s.2.count)),
   (failuresName, m.failures.toList),
   (reconciliationsName, [([], m.reconciliations)])].filter fun f => !f.2.isEmpty

end FeatureLabels.Metrics
