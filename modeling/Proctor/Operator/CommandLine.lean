import Proctor.Config
import Proctor.Operator.Telemetry
import Proctor.Text.Split

/-!
# The command line

The options of the controller and the variables of the environment that stand for options not
given. Arguments are read from left to right. The value of an option is judged when the next option
is met or the arguments end, unless it is attached by an equals sign; the first thing that is wrong
is told.
-/

namespace Proctor

/-- An option with a value. -/
inductive Setting where
  /-- The namespace whose Tests are watched. -/
  | namespaceName
  /-- The image that runs tests. -/
  | runtimeImage
  /-- How many Tests are reconciled at a time. -/
  | concurrency
  /-- How often a status is written. -/
  | statusRetries
  /-- The file that tells how to reach the cluster. -/
  | kubeconfig
  /-- Where measurements are sent. -/
  | otlpEndpoint
  /-- The filter of the log. -/
  | logFilter
  deriving DecidableEq, Repr

namespace Setting

/-- Every option with a value, in the order in which the environment is looked at. -/
def all : List Setting :=
  [.namespaceName, .runtimeImage, .concurrency, .statusRetries, .kubeconfig, .otlpEndpoint,
    .logFilter]

/-- The name of an option. -/
def flag : Setting → String
  | .namespaceName => "namespace"
  | .runtimeImage => "runtime-image"
  | .concurrency => "concurrency"
  | .statusRetries => "status-retries"
  | .kubeconfig => "kubeconfig"
  | .otlpEndpoint => "otlp-endpoint"
  | .logFilter => "log-filter"

/-- The variable that stands for an option. -/
def variableName : Setting → String
  | .namespaceName => "WATCH_NAMESPACE"
  | .runtimeImage => "YAKS_IMAGE"
  | .concurrency => "YAKS_CONCURRENCY"
  | .statusRetries => "YAKS_STATUS_RETRIES"
  | .kubeconfig => "KUBECONFIG"
  | .otlpEndpoint => "OTEL_EXPORTER_OTLP_ENDPOINT"
  | .logFilter => "RUST_LOG"

end Setting

/-- Why the arguments give no settings. -/
inductive CommandLineFault where
  /-- An option has no value, or an empty one where that is no value. -/
  | invalidValue
  /-- A number is none, or out of range. -/
  | valueValidation
  /-- An option is given twice. -/
  | argumentConflict
  /-- An option that has no value is given one. -/
  | tooManyValues
  /-- An argument is not known. -/
  | unknownArgument
  /-- Help is asked for. -/
  | displayHelp
  /-- The version is asked for. -/
  | displayVersion
  deriving DecidableEq, Repr

namespace CommandLine

/-- A number of ASCII digits after an optional sign. -/
def signed? (s : String) : Option Int :=
  match s.toList with
  | '+' :: rest => (Text.decimal? rest).map Int.ofNat
  | '-' :: rest => (Text.decimal? rest).map fun n => -(n : Int)
  | cs => (Text.decimal? cs).map Int.ofNat

/-- A number below a limit. -/
def numberBelow? (limit : Nat) (s : String) : Option Nat :=
  match signed? s with
  | some n => if 0 ≤ n ∧ n < limit then some n.toNat else none
  | none => none

/-- How many Tests may be reconciled at a time: a word of 16 bits. -/
def concurrency? : String → Option Nat := numberBelow? 65536

/-- How often a status may be written: a word of 32 bits. -/
def retries? : String → Option Nat := numberBelow? 4294967296

/-- The value that an option accepts. -/
def check (s : Setting) (value : String) : Except CommandLineFault Unit :=
  match s with
  | .concurrency => if (concurrency? value).isSome then .ok () else .error .valueValidation
  | .statusRetries => if (retries? value).isSome then .ok () else .error .valueValidation
  | .kubeconfig => if value = "" then .error .invalidValue else .ok ()
  | _ => .ok ()

/-- The arguments that have been read. -/
structure Given where
  /-- The values of options. -/
  values : List (Setting × String) := []
  /-- The resource definition is asked for. -/
  crd : Bool := false
  /-- The option that was met last, with its value if that has been met, still to be judged. -/
  pending : Option (Setting × Option String) := none
  /-- Only arguments without a name may follow. -/
  onlyPositional : Bool := false

namespace Given

/-- The value of an option is kept, if it is the first and a good one. -/
def keep (g : Given) (s : Setting) (value : String) : Except CommandLineFault Given := do
  if g.values.any (·.1 = s) then .error .argumentConflict
  check s value
  return { g with values := g.values ++ [(s, value)] }

/-- The option that was met last is judged. -/
def settle (g : Given) : Except CommandLineFault Given :=
  match g.pending with
  | none => .ok g
  | some (_, none) => .error .invalidValue
  | some (s, some value) => { g with pending := none }.keep s value

/-- An argument that begins with two dashes. -/
def long (g : Given) (name : String) (value : Option String) : Except CommandLineFault Given :=
  match Setting.all.find? (·.flag = name), value with
  | some s, some value => do (← g.settle).keep s value
  | some s, none => do
    let g ← g.settle
    return { g with pending := some (s, none) }
  | none, value =>
    if name = "crd" ∨ name = "help" ∨ name = "version" then
      match value with
      | some _ => .error .tooManyValues
      | none => do
        let g ← g.settle
        if name = "help" then .error .displayHelp
        else if name = "version" then .error .displayVersion
        else if g.crd then .error .argumentConflict
        else return { g with crd := true }
    else .error .unknownArgument

/-- An argument that begins with one dash. -/
def short (g : Given) (letter : Char) : Except CommandLineFault Given :=
  if letter = 'h' then do
    let _ ← g.settle
    .error .displayHelp
  else if letter = 'V' then do
    let _ ← g.settle
    .error .displayVersion
  else .error .unknownArgument

/-- An argument that is no option. -/
def plain (g : Given) (argument : String) : Except CommandLineFault Given :=
  match g.pending with
  | some (s, none) => .ok { g with pending := some (s, some argument) }
  | _ => .error .unknownArgument

/-- An argument is read. -/
def read (g : Given) (argument : String) : Except CommandLineFault Given :=
  if g.onlyPositional then .error .unknownArgument
  else
    match argument.toList with
    | ['-', '-'] => .ok { g with onlyPositional := true }
    | '-' :: '-' :: rest =>
      match Text.cut? '=' (String.ofList rest) with
      | some (name, value) => g.long name (some value)
      | none => g.long (String.ofList rest) none
    | '-' :: letter :: _ => g.short letter
    | _ => g.plain argument

/-- A variable stands for an option that was not given. -/
def readVariable (environment : String → Option String) (g : Given) (s : Setting) :
    Except CommandLineFault Given :=
  if g.values.any (·.1 = s) then .ok g
  else
    match environment s.variableName with
    | none => .ok g
    | some value => g.keep s value

/-- The value of an option. -/
def value? (g : Given) (s : Setting) : Option String := g.values.lookup s

end Given

end CommandLine

/-- The settings that the controller is started with. -/
structure CommandLine where
  /-- The resource definition is asked for, and nothing else. -/
  crd : Bool
  /-- The namespace to watch, as given. -/
  namespaceName : Option String
  /-- The image that runs tests. -/
  runtimeImage : String
  /-- How many Tests are reconciled at a time. -/
  concurrency : Nat
  /-- How often a status is written. -/
  statusRetries : UInt32
  /-- The file that tells how to reach the cluster. -/
  kubeconfig : Option String
  /-- Where measurements are sent, as given. -/
  otlpEndpoint : Option String
  /-- The filter of the log, as given. -/
  logFilter : Option String
  deriving DecidableEq

namespace CommandLine

/-- The settings in what was given. -/
def ofGiven (g : Given) : CommandLine :=
  let d : Config := {}
  { crd := g.crd
    namespaceName := g.value? .namespaceName
    runtimeImage := (g.value? .runtimeImage).getD d.runtimeImage
    concurrency := ((g.value? .concurrency).bind concurrency?).getD 4
    statusRetries :=
      (((g.value? .statusRetries).bind retries?).map Nat.toUInt32).getD d.statusRetries
    kubeconfig := g.value? .kubeconfig
    otlpEndpoint := g.value? .otlpEndpoint
    logFilter := g.value? .logFilter }

/-- The settings in arguments and environment. -/
def read (arguments : List String) (environment : String → Option String) :
    Except CommandLineFault CommandLine := do
  let g ← arguments.foldlM Given.read {}
  let g ← g.settle
  let g ← Setting.all.foldlM (Given.readVariable environment) g
  return ofGiven g

/-- The namespace to watch; all of them if there is none. -/
def watchNamespace? (c : CommandLine) : Option String := c.namespaceName.bind Text.nonblank?

/-- The settings of the controller. -/
def config (c : CommandLine) : Config :=
  { runtimeImage := c.runtimeImage, statusRetries := c.statusRetries }

/-- The settings of telemetry. -/
def telemetry (c : CommandLine) : Telemetry :=
  { endpoint := c.otlpEndpoint, logFilter := c.logFilter }

end CommandLine

end Proctor
