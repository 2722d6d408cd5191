/-!
# Settings of the controller

What every reconciliation shares: which image runs the tests, with which command, under which
version, and how often a write that meets a conflict is tried.
-/

namespace Proctor

/-- The version of this controller. -/
def controllerVersion : String := "0.1.0"

/-- The name under which the controller writes. -/
def controllerName : String := "yaks-operator"

/-- The image that runs tests by default. -/
def defaultRuntimeImage : String := "docker.io/citrusframework/yaks:" ++ controllerVersion

/-- The command that runs tests by default. -/
def defaultRuntimeCommand : List String :=
  ["mvn", "-B", "-q", "--no-transfer-progress", "-f", "/deployments/data/yaks-runtime-maven",
    "verify", "-Dit.test=org.citrusframework.yaks.feature.Yaks"]

/-- Settings of the controller. -/
structure Config where
  /-- The image that runs tests. -/
  runtimeImage : String := defaultRuntimeImage
  /-- The command that runs tests. -/
  runtimeCommand : List String := defaultRuntimeCommand
  /-- The version that Tests are stamped with. -/
  version : String := controllerVersion
  /-- How often a status is written before a conflict is told. -/
  statusRetries : UInt32 := 3
  deriving DecidableEq, Inhabited

/-- How often a status is written, at least once. -/
def Config.attempts (c : Config) : Nat := max 1 c.statusRetries.toNat

end Proctor
