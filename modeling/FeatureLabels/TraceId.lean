namespace FeatureLabels.TraceId

def invalid : String := String.ofList (List.replicate 32 '0')

/-- The trace that a parent belongs to, in lower case. -/
def ofParent? (parent : Option String) : Option String :=
  (parent.map fun id => id.map Char.toLower).filter fun id => id != invalid

end FeatureLabels.TraceId
