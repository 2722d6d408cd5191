import Proctor.Cluster.Shape.Reference

/-!
# Fields of containers

The shapes of what a container may have beside what the controller gives it: its probes, its
network, its rights, its share of the machine.
-/

namespace Proctor

open Shape (free written)

/-! ### Environment and mounts -/

/-- The fields of a variable beside its name and value. -/
def EnvVar.otherFields : List (Shape.Field Shape) :=
  free (.record (
    free Shape.entry ["configMapKeyRef", "secretKeyRef"] ++
    free Shape.objectField ["fieldRef"] ++ free Shape.resourceField ["resourceFieldRef"]))
    ["valueFrom"]

/-- The fields of a mount that the controller does not set. -/
def VolumeMount.otherFields : List (Shape.Field Shape) :=
  free .text ["mountPropagation", "recursiveReadOnly", "subPath", "subPathExpr"]

namespace Shape

/-- A variable. -/
def envVariable : Shape := .record (
  written .text ["name"] ++ free .text ["value"] ++ EnvVar.otherFields)

/-- Variables from all entries of an object. -/
def objectVariables : Shape := .record (
  free optionalObject ["configMapRef", "secretRef"] ++ free .text ["prefix"])

/-- A mount. -/
def mount : Shape := .record (
  written .text ["mountPath", "name"] ++ free .flag ["readOnly"] ++ VolumeMount.otherFields)

/-! ### Probes -/

/-- A command. -/
def command : Shape := .record (free texts ["command"])

/-- A request to a web server. -/
def webRequest : Shape := .record (
  written wholeOrText ["port"] ++ free .text ["host", "path", "scheme"] ++
  free (.list (.record (written .text ["name", "value"]))) ["httpHeaders"])

/-- A connection. -/
def connection : Shape := .record (written wholeOrText ["port"] ++ free .text ["host"])

/-- What can be done to look at a container or to tell it something. -/
def contacts : List (Field Shape) :=
  free command ["exec"] ++ free webRequest ["httpGet"] ++ free connection ["tcpSocket"]

/-- A look at whether a container works. -/
def probe : Shape := .record (
  contacts ++
  free (.record (written .whole32 ["port"] ++ free .text ["service"])) ["grpc"] ++
  free .whole32 [
    "failureThreshold", "initialDelaySeconds", "periodSeconds", "successThreshold",
    "timeoutSeconds"] ++
  free .whole64 ["terminationGracePeriodSeconds"])

/-- What is done when a container begins or ends. -/
def hook : Shape := .record (
  contacts ++ free (.record (written .whole64 ["seconds"])) ["sleep"])

/-! ### Rights -/

/-- The profile that confines a process. -/
def profile : Shape := .record (written .text ["type"] ++ free .text ["localhostProfile"])

/-- The rights that a container shares with its Pod. -/
def rights : List (Field Shape) :=
  free profile ["appArmorProfile", "seccompProfile"] ++
  free .whole64 ["runAsGroup", "runAsUser"] ++ free .flag ["runAsNonRoot"] ++
  free (.record (free .text ["level", "role", "type", "user"])) ["seLinuxOptions"] ++
  free (.record (
    free .text ["gmsaCredentialSpec", "gmsaCredentialSpecName", "runAsUserName"] ++
    free .flag ["hostProcess"])) ["windowsOptions"]

/-- The rights of a container. -/
def containerRights : Shape := .record (
  rights ++
  free .flag ["allowPrivilegeEscalation", "privileged", "readOnlyRootFilesystem"] ++
  free (.record (free texts ["add", "drop"])) ["capabilities"] ++ free .text ["procMount"])

/-! ### Containers -/

/-- A channel of a container to the network. -/
def networkChannel : Shape := .record (
  written .whole32 ["containerPort"] ++ free .text ["hostIP", "name", "protocol"] ++
  free .whole32 ["hostPort"])

end Shape

/-- The fields of a container that the controller does not set. -/
def Container.otherFields : List (Shape.Field Shape) :=
  free Shape.texts ["args"] ++ free (.list Shape.objectVariables) ["envFrom"] ++
  free (.record (free Shape.hook ["postStart", "preStop"])) ["lifecycle"] ++
  free Shape.probe ["livenessProbe", "readinessProbe", "startupProbe"] ++
  free (.list Shape.networkChannel) ["ports"] ++
  free (.list (.record (written .text ["resourceName", "restartPolicy"]))) ["resizePolicy"] ++
  free Shape.resources ["resources"] ++ free .text ["restartPolicy", "workingDir"] ++
  free Shape.containerRights ["securityContext"] ++ free .flag ["stdin", "stdinOnce", "tty"] ++
  free (.list (.record (written .text ["devicePath", "name"]))) ["volumeDevices"]

namespace Shape

/-- The fields of a container. -/
def containerFields : List (Field Shape) :=
  written .text ["name"] ++
  free .text
    ["image", "imagePullPolicy", "terminationMessagePath", "terminationMessagePolicy"] ++
  free texts ["command"] ++ free (.list envVariable) ["env"] ++
  free (.list mount) ["volumeMounts"] ++ Container.otherFields

/-- A container. -/
def container : Shape := .record containerFields

/-- A container that is added while the Pod runs. -/
def addedContainer : Shape := .record (containerFields ++ free .text ["targetContainerName"])

end Shape

end Proctor
