import Proctor.Crd.Definition
import Proctor.Operator.CommandLine
import Proctor.Operator.Connection
import Proctor.Yaml.Writer

/-!
# Startup

What the program does with its command line, up to the point where it talks to a cluster.
-/

namespace Proctor

/-- How the program goes on. -/
inductive Startup where
  /-- The command line is refused. -/
  | refused (f : CommandLineFault)
  /-- The program writes a text and ends well. -/
  | printed (text : String)
  /-- The program writes help and ends well. -/
  | helped
  /-- Telemetry could not be set up. -/
  | noTelemetry (f : TelemetryFault)
  /-- No client could be made. -/
  | noClient (f : Fault)
  /-- The program goes on with a client and its settings. -/
  | ready (client : Kubeconfig.Settings) (settings : CommandLine)

namespace Startup

/-- The text of the resource definition of Tests. -/
def definitionText : String := Yaml.document Definition.toJson

/-- The text of the version. -/
def versionText : String := controllerName ++ " " ++ controllerVersion ++ "\n"

/-- The program is started with arguments and an environment; files are read by their names. -/
def run (arguments : List String) (environment : String → Option String)
    (file : String → Option String) : Startup :=
  match CommandLine.read arguments environment with
  | .error .displayHelp => .helped
  | .error .displayVersion => .printed versionText
  | .error f => .refused f
  | .ok c =>
    if c.crd then .printed (definitionText ++ "\n")
    else
      match c.telemetry.install with
      | .error f => .noTelemetry f
      | .ok () =>
        let client := match c.kubeconfig with
          | some path => Kubeconfig.connect (file path)
          | none => Kubeconfig.infer none
        match client with
        | .error f => .noClient f
        | .ok client => .ready client c

/-- The number that the program ends with. -/
def exitCode : Startup → Nat
  | .printed _ | .helped => 0
  | .refused _ => 2
  | .noTelemetry _ | .noClient _ | .ready _ _ => 1

/-- The first words of what the program writes when it fails. -/
def failure? : Startup → Option String
  | .noTelemetry _ => some "Error: failed to initialize telemetry"
  | .noClient _ => some "Error: failed to create kube client"
  | .ready _ _ => some ("Error: failed to install " ++ Definition.name ++ " CRD")
  | _ => none

/-- What the program writes when it ends well, beside help. -/
def output? : Startup → Option String
  | .printed text => some text
  | _ => none

end Startup

end Proctor
