import FeatureLabels.Settings
import FeatureLabels.Text.Decimal

namespace FeatureLabels

inductive Parameter where
  | labelDomain
  | workers
  | bindAddress
  | maxRetrySeconds
  | resyncSeconds
deriving DecidableEq, Repr

inductive ArgumentError where
  | unknown
  | missingValue
  | badValue
  | repeated
  | surplusValue
  | help
deriving DecidableEq, Repr

def ArgumentError.message : ArgumentError → String
  | .unknown => "unexpected argument found"
  | .missingValue => "a value is required for an argument but none was supplied"
  | .badValue => "invalid value for an argument"
  | .repeated => "an argument cannot be used multiple times"
  | .surplusValue => "unexpected value for an argument found"
  | .help => "help is asked for"

namespace Parameter

/-- The parameters in the order in which their variables are looked at. -/
def all : List Parameter := [labelDomain, workers, bindAddress, maxRetrySeconds, resyncSeconds]

theorem mem_all (p : Parameter) : p ∈ all := by
  cases p <;> decide

def flag : Parameter → String
  | labelDomain => "label-domain"
  | workers => "workers"
  | bindAddress => "bind-address"
  | maxRetrySeconds => "max-retry-backoff-seconds"
  | resyncSeconds => "resync-interval-seconds"

def variableName : Parameter → String
  | labelDomain => "ADDON_LABEL_DOMAIN"
  | workers => "ADDON_DISCOVERY_WORKERS"
  | bindAddress => "ADDON_DISCOVERY_BIND_ADDRESS"
  | maxRetrySeconds => "ADDON_DISCOVERY_MAX_RETRY_BACKOFF_SECONDS"
  | resyncSeconds => "ADDON_DISCOVERY_RESYNC_INTERVAL_SECONDS"

def purpose : Parameter → String
  | labelDomain => "Domain of the label keys written to ManagedClusters"
  | workers => "Number of objects each controller reconciles concurrently"
  | bindAddress => "Address the web server listens on"
  | maxRetrySeconds => "Upper bound of the per-key retry backoff"
  | resyncSeconds => "Period of the full resync of every ManagedCluster"

def default : Parameter → String
  | labelDomain => LabelSpace.defaultDomain
  | workers => "2"
  | bindAddress => "0.0.0.0:8080"
  | maxRetrySeconds => "30"
  | resyncSeconds => "600"

def range? : Parameter → Option (Nat × Nat)
  | labelDomain => none
  | workers => some (1, 65535)
  | bindAddress => none
  | maxRetrySeconds => some (0, Settings.longestDelay.seconds)
  | resyncSeconds => some (1, Settings.longestDelay.seconds)

/-- The number that a text stands for: decimal digits, after a plus sign if wanted. -/
def number? (text : String) : Option Nat :=
  let digits := match text.toList with
    | '+' :: rest => rest
    | cs => cs
  if digits.isEmpty || !digits.all Char.isDigit then none else some (Text.digitsValue digits)

def accepts (p : Parameter) (value : String) : Bool :=
  match p.range? with
  | none => true
  | some (low, high) =>
    match number? value with
    | some n => low ≤ n && n ≤ high
    | none => false

def ofFlag? (name : String) : Option Parameter := all.find? fun p => p.flag == name

end Parameter

inductive Argument where
  | escape
  | long (name : String) (value : Option String)
  | short (letter : Char)
  | plain (text : String)
deriving DecidableEq, Repr

/-- The shape of an argument. A single dash is plain. -/
def Argument.ofText (text : String) : Argument :=
  match text.toList with
  | '-' :: '-' :: [] => .escape
  | '-' :: '-' :: cs =>
    let name := cs.takeWhile (· != '=')
    .long (String.ofList name) <|
      if name.length < cs.length then some (String.ofList (cs.drop (name.length + 1))) else none
  | '-' :: letter :: _ => .short letter
  | _ => .plain text

abbrev Given := List (Parameter × String)

/-- A flag that was met last, with its value if that has come already. -/
abbrev Pending := Option (Parameter × Option String)

namespace Given

def value? (given : Given) (p : Parameter) : Option String :=
  (given.find? fun g => g.1 == p).map Prod.snd

def add (given : Given) (p : Parameter) : Option String → Except ArgumentError Given
  | none => .error .missingValue
  | some value =>
    if (given.value? p).isSome then .error .repeated
    else if p.accepts value then .ok (given ++ [(p, value)])
    else .error .badValue

def settle (given : Given) : Pending → Except ArgumentError Given
  | none => .ok given
  | some (p, value) => given.add p value

/-- Reads arguments from left to right. A flag is checked when it is clear that nothing more
belongs to it, so that an unknown argument right after it is reported first. -/
def read (given : Given) (pending : Pending) : List String → Except ArgumentError Given
  | [] => given.settle pending
  | text :: rest =>
    match Argument.ofText text with
    | .escape => if rest.isEmpty then given.settle pending else .error .unknown
    | .long name value =>
      if name = "help" then
        match value with
        | none => (given.settle pending).bind fun _ => .error .help
        | some _ => .error .surplusValue
      else
        match Parameter.ofFlag? name with
        | none => .error .unknown
        | some p =>
          match given.settle pending with
          | .error e => .error e
          | .ok given =>
            match value with
            | none => given.read (some (p, none)) rest
            | some value =>
              match given.add p (some value) with
              | .error e => .error e
              | .ok given => given.read none rest
    | .short letter =>
      if letter = 'h' then (given.settle pending).bind fun _ => .error .help
      else .error .unknown
    | .plain text =>
      match pending with
      | some (p, none) => given.read (some (p, some text)) rest
      | _ => .error .unknown

end Given

/-- The value of a parameter: from its flag, else from its variable, else its default. -/
def Parameter.resolve (p : Parameter) (given : Given) (env : Parameter → Option String) :
    Except ArgumentError String :=
  match given.value? p with
  | some value => .ok value
  | none =>
    match env p with
    | some value => if p.accepts value then .ok value else .error .badValue
    | none => .ok p.default

structure Arguments where
  labelDomain : String
  workers : Nat
  bindAddress : String
  maxRetrySeconds : Nat
  resyncSeconds : Nat
deriving DecidableEq, Repr

namespace Arguments

def read (args : List String) (env : Parameter → Option String) :
    Except ArgumentError Arguments := do
  let given ← Given.read [] none args
  let labelDomain ← Parameter.labelDomain.resolve given env
  let workers ← Parameter.workers.resolve given env
  let bindAddress ← Parameter.bindAddress.resolve given env
  let maxRetrySeconds ← Parameter.maxRetrySeconds.resolve given env
  let resyncSeconds ← Parameter.resyncSeconds.resolve given env
  let number := fun value => (Parameter.number? value).getD 0
  return { labelDomain, workers := number workers, bindAddress,
           maxRetrySeconds := number maxRetrySeconds, resyncSeconds := number resyncSeconds }

def settings (a : Arguments) : Settings where
  domain := a.labelDomain
  workers := a.workers
  maxRetryDelay := .ofSeconds a.maxRetrySeconds
  resyncInterval := .ofSeconds a.resyncSeconds

end Arguments

def helpLines : List String :=
  ["Usage: addon-discovery-operator [OPTIONS]", "", "Options:"] ++
    (Parameter.all.flatMap fun p =>
      ["      --" ++ p.flag ++ " <VALUE>",
       "          " ++ p.purpose ++ " [env: " ++ p.variableName ++ "] [default: " ++
         p.default ++ "]"]) ++
    ["  -h, --help", "          Print help"]

end FeatureLabels
