import Proctor.Cluster.Shape.Container

/-!
# Fields of Pods

The shapes of what a Pod may have beside what the controller gives it, and of what the cluster says
about it beside what the controller reads.
-/

namespace Proctor

open Shape (free written)

namespace Shape

/-! ### Where a Pod runs -/

/-- Nodes that meet conditions. -/
def nodes : Shape := .record (free (.list condition) ["matchExpressions", "matchFields"])

/-- The nodes that a Pod should or has to run on. -/
def nodeAffinity : Shape := .record (
  free (.list (.record (written nodes ["preference"] ++ written .whole32 ["weight"])))
    ["preferredDuringSchedulingIgnoredDuringExecution"] ++
  free (.record (written (.list nodes) ["nodeSelectorTerms"]))
    ["requiredDuringSchedulingIgnoredDuringExecution"])

/-- Other Pods, as seen from a place. -/
def neighbours : Shape := .record (
  written .text ["topologyKey"] ++ free selector ["labelSelector", "namespaceSelector"] ++
  free texts ["matchLabelKeys", "mismatchLabelKeys", "namespaces"])

/-- The Pods that a Pod should or has to run beside. -/
def podAffinity : Shape := .record (
  free (.list (.record (
    written neighbours ["podAffinityTerm"] ++ written .whole32 ["weight"])))
    ["preferredDuringSchedulingIgnoredDuringExecution"] ++
  free (.list neighbours) ["requiredDuringSchedulingIgnoredDuringExecution"])

/-- A blemish of a node that a Pod puts up with. -/
def toleration : Shape := .record (
  free .text ["effect", "key", "operator", "value"] ++ free .whole64 ["tolerationSeconds"])

/-- How Pods are spread. -/
def spread : Shape := .record (
  written .whole32 ["maxSkew"] ++ written .text ["topologyKey", "whenUnsatisfiable"] ++
  free selector ["labelSelector"] ++ free texts ["matchLabelKeys"] ++
  free .whole32 ["minDomains"] ++ free .text ["nodeAffinityPolicy", "nodeTaintsPolicy"])

/-! ### Names and rights -/

/-- How names are resolved. -/
def resolver : Shape := .record (
  free texts ["nameservers", "searches"] ++
  free (.list (.record (free .text ["name", "value"]))) ["options"])

/-- The rights of a Pod. -/
def podRights : Shape := .record (
  rights ++ free .whole64 ["fsGroup"] ++
  free .text ["fsGroupChangePolicy", "seLinuxChangePolicy", "supplementalGroupsPolicy"] ++
  free (.list .whole64) ["supplementalGroups"] ++
  free (.list (.record (written .text ["name", "value"]))) ["sysctls"])

end Shape

/-- The fields of what a Pod is made of that the controller does not set. -/
def PodSpec.otherFields : List (Shape.Field Shape) :=
  free .whole64 ["activeDeadlineSeconds", "terminationGracePeriodSeconds"] ++
  free (.record (
    free Shape.nodeAffinity ["nodeAffinity"] ++
    free Shape.podAffinity ["podAffinity", "podAntiAffinity"])) ["affinity"] ++
  free .flag [
    "automountServiceAccountToken", "enableServiceLinks", "hostIPC", "hostNetwork", "hostPID",
    "hostUsers", "setHostnameAsFQDN", "shareProcessNamespace"] ++
  free Shape.resolver ["dnsConfig"] ++
  free .text [
    "dnsPolicy", "hostname", "nodeName", "preemptionPolicy", "priorityClassName",
    "runtimeClassName", "schedulerName", "serviceAccount", "subdomain"] ++
  free (.list Shape.addedContainer) ["ephemeralContainers"] ++
  free (.list (.record (written .text ["ip"] ++ free Shape.texts ["hostnames"])))
    ["hostAliases"] ++
  free (.list Shape.namedObject) ["imagePullSecrets", "schedulingGates"] ++
  free (.list Shape.container) ["initContainers"] ++
  free Shape.labels ["nodeSelector"] ++ free Shape.namedObject ["os"] ++
  free Shape.amounts ["overhead"] ++ free .whole32 ["priority"] ++
  free (.list (.record (written .text ["conditionType"]))) ["readinessGates"] ++
  free (.list (.record (
    written .text ["name"] ++ free .text ["resourceClaimName", "resourceClaimTemplateName"])))
    ["resourceClaims"] ++
  free Shape.resources ["resources"] ++ free Shape.podRights ["securityContext"] ++
  free (.list Shape.toleration) ["tolerations"] ++
  free (.list Shape.spread) ["topologySpreadConstraints"]

/-! ### What the cluster says -/

/-- The fields of how a container ended that the controller does not read. -/
def Terminated.otherFields : List (Shape.Field Shape) :=
  free .text ["containerID"] ++ free .moment ["finishedAt", "startedAt"] ++
  free .whole32 ["signal"]

/-- The fields of the state of a container beside how it ended. -/
def ContainerState.otherFields : List (Shape.Field Shape) :=
  free (.record (free .moment ["startedAt"])) ["running"] ++
  free (.record (free .text ["message", "reason"])) ["waiting"]

/-- The fields of what is said about a container beside its name and its states. -/
def ContainerStatus.otherFields : List (Shape.Field Shape) :=
  written .text ["image", "imageID"] ++ written .flag ["ready"] ++
  written .whole32 ["restartCount"] ++ free Shape.amounts ["allocatedResources"] ++
  free (.list (.record (
    written .text ["name"] ++
    free (.list (.record (written .text ["resourceID"] ++ free .text ["health"])))
      ["resources"]))) ["allocatedResourcesStatus"] ++
  free .text ["containerID"] ++ free Shape.resources ["resources"] ++ free .flag ["started"] ++
  free (.record (free (.record (
    written .whole64 ["gid", "uid"] ++ free (.list .whole64) ["supplementalGroups"]))
    ["linux"])) ["user"] ++
  free (.list (.record (
    written .text ["mountPath", "name"] ++ free .flag ["readOnly"] ++
    free .text ["recursiveReadOnly"]))) ["volumeMounts"]

namespace Shape

/-- The state of a container. -/
def containerState : Shape := .record (
  free (.record (
    written .whole32 ["exitCode"] ++ free .text ["message", "reason"] ++
    Terminated.otherFields)) ["terminated"] ++
  ContainerState.otherFields)

/-- What the cluster says about a container. -/
def containerStatus : Shape := .record (
  written .text ["name"] ++ free containerState ["lastState", "state"] ++
  ContainerStatus.otherFields)

/-- A network address. -/
def networkAddress : Shape := .record (written .text ["ip"])

end Shape

/-- The fields of what is said about a Pod that the controller does not read. -/
def PodStatus.otherFields : List (Shape.Field Shape) :=
  free (.list (.record (
    written .text ["status", "type"] ++ free .text ["message", "reason"] ++
    free .moment ["lastProbeTime", "lastTransitionTime"]))) ["conditions"] ++
  free (.list Shape.containerStatus) ["ephemeralContainerStatuses", "initContainerStatuses"] ++
  free .text [
    "hostIP", "message", "nominatedNodeName", "podIP", "qosClass", "reason", "resize"] ++
  free (.list Shape.networkAddress) ["hostIPs", "podIPs"] ++
  free (.list (.record (written .text ["name"] ++ free .text ["resourceClaimName"])))
    ["resourceClaimStatuses"] ++
  free .moment ["startTime"]

end Proctor
