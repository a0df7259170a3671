import FeatureLabels.Program

namespace FeatureLabels

def readEnvironment : IO (Parameter → Option String) := do
  let values ← Parameter.all.mapM fun p => do return (p, ← IO.getEnv p.variableName)
  return fun p => (values.find? fun v => v.1 == p).bind Prod.snd

def readConfig : IO (Option String) := do
  let path ← do
    match ← IO.getEnv "KUBECONFIG" with
    | some path => pure path
    | none => pure (((← IO.getEnv "HOME").getD "") ++ "/.kube/config")
  try
    return some (← IO.FS.readFile path)
  catch _ => return none

end FeatureLabels

open FeatureLabels in
def main (args : List String) : IO UInt32 := do
  let exit := runProgram args (← readEnvironment) (← IO.getEnv "RUST_LOG") (← readConfig)
  for line in exit.lines do
    IO.println s!"{line.level.text} {line.text}"
  match exit with
  | .help => for line in helpLines do IO.println line
  | .misuse error => IO.eprintln s!"error: {error.message}"
  | .failed failure => IO.eprintln s!"Error: {failure.message}"
  | .unreachable _ => pure ()
  return exit.code.toUInt32
