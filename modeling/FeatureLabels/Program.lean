import FeatureLabels.CommandLine
import FeatureLabels.Kubeconfig
import FeatureLabels.LogFilter
import FeatureLabels.Operator

namespace FeatureLabels

inductive StartFailure where
  | badAddress
  | badAddressNumber
  | failed (failure : Failure)

def StartFailure.message : StartFailure → String
  | .badAddress => "invalid socket address"
  | .badAddressNumber => "invalid port value"
  | .failed failure => failure.message

def addressNumber? (address : String) : Option String :=
  let tail := address.toList.reverse.takeWhile (· != ':')
  if tail.length < address.toList.length then some (String.ofList tail.reverse) else none

def checkAddress (address : String) : Except StartFailure Unit :=
  match addressNumber? address with
  | none => .error .badAddress
  | some text =>
    match Parameter.number? text with
    | some n => if n < UInt16.size then .ok () else .error .badAddressNumber
    | none => .error .badAddressNumber

/-- Connects to the cluster of a configuration, as far as that needs no cluster: the address of
a server has to be found, and the metrics are registered. -/
def connect (config : Option String) (registered : Bool) : Except Failure Unit :=
  match config.bind Kubeconfig.serverOfText? with
  | none => .error (.api .unconfigured)
  | some _ => Operator.register registered

def logTarget : String := "addon_discovery_operator::controllers::addondiscovery::controller"

def unreachableLine : LogLine := ⟨.error, "ManagedCluster is not queryable"⟩

inductive Exit where
  | help
  | misuse (error : ArgumentError)
  | failed (failure : StartFailure)
  | unreachable (lines : List LogLine)

namespace Exit

def code : Exit → Nat
  | .help => 0
  | .misuse _ => 2
  | .failed _ => 1
  | .unreachable _ => 1

def lines : Exit → List LogLine
  | .unreachable lines => lines
  | _ => []

def failure? : Exit → Option StartFailure
  | .failed failure => some failure
  | _ => none

end Exit

/-- The program from its start to the end that it finds where no cluster answers. -/
def start (a : Arguments) (filter : LogFilter) (config : Option String) : Exit :=
  match checkAddress a.bindAddress with
  | .error failure => .failed failure
  | .ok _ =>
    match connect config false with
    | .error failure => .failed (.failed failure)
    | .ok _ =>
      .unreachable ([unreachableLine].filter fun line => filter.passes logTarget line.level)

def runProgram (args : List String) (env : Parameter → Option String)
    (logSetting config : Option String) : Exit :=
  match Arguments.read args env with
  | .error .help => .help
  | .error error => .misuse error
  | .ok a => start a (.ofSetting logSetting) config

end FeatureLabels
