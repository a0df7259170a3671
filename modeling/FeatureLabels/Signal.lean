namespace FeatureLabels

inductive Signal where
  | terminate
  | interrupt
  | other (name : String)
deriving DecidableEq, Repr

namespace Signal

def ofName (name : String) : Signal :=
  if name = "TERM" then .terminate else if name = "INT" then .interrupt else .other name

def stops : Signal → Bool
  | .terminate => true
  | .interrupt => true
  | .other _ => false

def anyStops (signals : List Signal) : Bool := signals.any stops

end Signal

end FeatureLabels
