import Proctor.Cluster.MetaCodec
import Proctor.Cluster.Objects
import Proctor.Cluster.Shape.Pod
import Proctor.Cluster.Shape.Volume

/-!
# Objects of the cluster in JSON

How the objects are read and written. Only objects are read; the last value given to a name counts,
unknown names are passed over, and a version or kind that is given has to be the right one. The
fields that the controller does not use are read by their shapes.
-/

namespace Proctor

open Json (last? list? ofFields)

namespace Json

/-- A text that is empty if it is not given. -/
def textOr? (name : String) (fields : List (String × Json)) : Option String :=
  (last? str? name fields).map (·.getD "")

/-- The fields of an object whose version and kind, where they are given, are these. -/
def kinded? (apiVersion kind : String) (j : Json) : Option (List (String × Json)) := do
  let fields ← j.fields?
  let fits := fields.all fun f =>
    (f.1 != "apiVersion" || f.2.str? == some apiVersion) &&
      (f.1 != "kind" || f.2.str? == some kind)
  if fits then some fields else none

end Json

/-! ### Reading -/

/-- A variable. -/
def EnvVar.read? (j : Json) : Option EnvVar := do
  let f ← j.fields?
  let name ← Json.textOr? "name" f
  let value ← last? Json.str? "value" f
  let others ← Shape.readFields? otherFields f
  some { name, value, others }

/-- A mount. -/
def VolumeMount.read? (j : Json) : Option VolumeMount := do
  let f ← j.fields?
  let mountPath ← Json.textOr? "mountPath" f
  let name ← Json.textOr? "name" f
  let readOnly ← last? Json.bool? "readOnly" f
  let others ← Shape.readFields? otherFields f
  some { mountPath, name, readOnly, others }

/-- The ConfigMap that a volume shows. -/
def ConfigMapVolume.read? (j : Json) : Option ConfigMapVolume := do
  let f ← j.fields?
  let name ← Json.textOr? "name" f
  let others ← Shape.readFields? otherFields f
  some { name, others }

/-- The Secret that a volume shows. -/
def SecretVolume.read? (j : Json) : Option SecretVolume := do
  let f ← j.fields?
  let secretName ← last? Json.str? "secretName" f
  let others ← Shape.readFields? otherFields f
  some { secretName, others }

/-- A volume. -/
def Volume.read? (j : Json) : Option Volume := do
  let f ← j.fields?
  let name ← Json.textOr? "name" f
  let configMap ← last? ConfigMapVolume.read? "configMap" f
  let secret ← last? SecretVolume.read? "secret" f
  let others ← Shape.readFields? otherFields f
  some { name, configMap, secret, others }

/-- A container. -/
def Container.read? (j : Json) : Option Container := do
  let f ← j.fields?
  let name ← Json.textOr? "name" f
  let image ← last? Json.str? "image" f
  let imagePullPolicy ← last? Json.str? "imagePullPolicy" f
  let command ← last? (list? Json.str?) "command" f
  let env ← last? (list? EnvVar.read?) "env" f
  let volumeMounts ← last? (list? VolumeMount.read?) "volumeMounts" f
  let terminationMessagePath ← last? Json.str? "terminationMessagePath" f
  let terminationMessagePolicy ← last? Json.str? "terminationMessagePolicy" f
  let others ← Shape.readFields? otherFields f
  some {
    name, image, imagePullPolicy, command, env, volumeMounts, terminationMessagePath,
    terminationMessagePolicy, others }

/-- What a Pod is made of. -/
def PodSpec.read? (j : Json) : Option PodSpec := do
  let f ← j.fields?
  let containers ← last? (list? Container.read?) "containers" f
  let restartPolicy ← last? Json.str? "restartPolicy" f
  let serviceAccountName ← last? Json.str? "serviceAccountName" f
  let volumes ← last? (list? Volume.read?) "volumes" f
  let others ← Shape.readFields? otherFields f
  some { containers := containers.getD [], restartPolicy, serviceAccountName, volumes, others }

/-- How a container ended. -/
def Terminated.read? (j : Json) : Option Terminated := do
  let f ← j.fields?
  let exitCode ← last? Json.signed32? "exitCode" f
  let message ← last? Json.str? "message" f
  let reason ← last? Json.str? "reason" f
  let others ← Shape.readFields? otherFields f
  some { exitCode := exitCode.getD 0, message, reason, others }

/-- The state of a container. -/
def ContainerState.read? (j : Json) : Option ContainerState := do
  let f ← j.fields?
  let terminated ← last? Terminated.read? "terminated" f
  let others ← Shape.readFields? otherFields f
  some { terminated, others }

/-- What the cluster says about a container. -/
def ContainerStatus.read? (j : Json) : Option ContainerStatus := do
  let f ← j.fields?
  let name ← Json.textOr? "name" f
  let state ← last? ContainerState.read? "state" f
  let lastState ← last? ContainerState.read? "lastState" f
  let others ← Shape.readFields? otherFields f
  some { name, state, lastState, others }

/-- What the cluster says about a Pod. -/
def PodStatus.read? (j : Json) : Option PodStatus := do
  let f ← j.fields?
  let phase ← last? Json.str? "phase" f
  let containerStatuses ← last? (list? ContainerStatus.read?) "containerStatuses" f
  let others ← Shape.readFields? otherFields f
  some { phase, containerStatuses, others }

/-- The metadata of an object; none given is as good as empty. -/
def ObjectMeta.readField? (fields : List (String × Json)) : Option ObjectMeta :=
  (last? ObjectMeta.read? "metadata" fields).map (·.getD {})

/-- A Pod. -/
def Pod.read? (j : Json) : Option Pod := do
  let f ← Json.kinded? "v1" "Pod" j
  let metadata ← ObjectMeta.readField? f
  let spec ← last? PodSpec.read? "spec" f
  let status ← last? PodStatus.read? "status" f
  some { metadata, spec, status }

/-- A ConfigMap. -/
def ConfigMap.read? (j : Json) : Option ConfigMap := do
  let f ← Json.kinded? "v1" "ConfigMap" j
  let metadata ← ObjectMeta.readField? f
  let data ← last? StringMap.read? "data" f
  let others ← Shape.readFields? otherFields f
  some { metadata, data, others }

/-- A ServiceAccount. -/
def ServiceAccount.read? (j : Json) : Option ServiceAccount := do
  let f ← Json.kinded? "v1" "ServiceAccount" j
  let metadata ← ObjectMeta.readField? f
  let others ← Shape.readFields? otherFields f
  some { metadata, others }

/-- A rule. -/
def PolicyRule.read? (j : Json) : Option PolicyRule := do
  let f ← j.fields?
  let apiGroups ← last? (list? Json.str?) "apiGroups" f
  let resources ← last? (list? Json.str?) "resources" f
  let verbs ← last? (list? Json.str?) "verbs" f
  let others ← Shape.readFields? otherFields f
  some { apiGroups, resources, verbs := verbs.getD [], others }

/-- A Role. -/
def Role.read? (j : Json) : Option Role := do
  let f ← Json.kinded? (accessGroup ++ "/v1") "Role" j
  let metadata ← ObjectMeta.readField? f
  let rules ← last? (list? PolicyRule.read?) "rules" f
  some { metadata, rules }

/-- A reference to a Role. -/
def RoleRef.read? (j : Json) : Option RoleRef := do
  let f ← j.fields?
  let apiGroup ← Json.textOr? "apiGroup" f
  let kind ← Json.textOr? "kind" f
  let name ← Json.textOr? "name" f
  some { apiGroup, kind, name }

/-- A subject. -/
def Subject.read? (j : Json) : Option Subject := do
  let f ← j.fields?
  let apiGroup ← last? Json.str? "apiGroup" f
  let kind ← Json.textOr? "kind" f
  let name ← Json.textOr? "name" f
  let namespaceName ← last? Json.str? "namespace" f
  some { apiGroup, kind, name, namespaceName }

/-- A RoleBinding. -/
def RoleBinding.read? (j : Json) : Option RoleBinding := do
  let f ← Json.kinded? (accessGroup ++ "/v1") "RoleBinding" j
  let metadata ← ObjectMeta.readField? f
  let roleRef ← last? RoleRef.read? "roleRef" f
  let subjects ← last? (list? Subject.read?) "subjects" f
  some { metadata, roleRef := roleRef.getD {}, subjects }

/-! ### Writing -/

/-- A list that may be unset. -/
def listField {α : Type} (write : α → Json) (items : Option (List α)) : Option Json :=
  items.map fun xs => .arr (xs.map write)

/-- The object of a variable. -/
def EnvVar.toJson (v : EnvVar) : Json :=
  .record v.others [("name", some (.str v.name)), ("value", v.value.map .str)]

/-- The object of a mount. -/
def VolumeMount.toJson (m : VolumeMount) : Json :=
  .record m.others [
    ("mountPath", some (.str m.mountPath)),
    ("name", some (.str m.name)),
    ("readOnly", m.readOnly.map .bool)]

/-- The object of the ConfigMap of a volume. -/
def ConfigMapVolume.toJson (v : ConfigMapVolume) : Json :=
  .record v.others [("name", some (.str v.name))]

/-- The object of the Secret of a volume. -/
def SecretVolume.toJson (v : SecretVolume) : Json :=
  .record v.others [("secretName", v.secretName.map .str)]

/-- The object of a volume. -/
def Volume.toJson (v : Volume) : Json :=
  .record v.others [
    ("configMap", v.configMap.map ConfigMapVolume.toJson),
    ("name", some (.str v.name)),
    ("secret", v.secret.map SecretVolume.toJson)]

/-- The object of a container. -/
def Container.toJson (c : Container) : Json :=
  .record c.others [
    ("command", c.command.map Json.ofTexts),
    ("env", listField EnvVar.toJson c.env),
    ("image", c.image.map .str),
    ("imagePullPolicy", c.imagePullPolicy.map .str),
    ("name", some (.str c.name)),
    ("terminationMessagePath", c.terminationMessagePath.map .str),
    ("terminationMessagePolicy", c.terminationMessagePolicy.map .str),
    ("volumeMounts", listField VolumeMount.toJson c.volumeMounts)]

/-- The object of what a Pod is made of. -/
def PodSpec.toJson (s : PodSpec) : Json :=
  .record s.others [
    ("containers", some (.arr (s.containers.map Container.toJson))),
    ("restartPolicy", s.restartPolicy.map .str),
    ("serviceAccountName", s.serviceAccountName.map .str),
    ("volumes", listField Volume.toJson s.volumes)]

/-- The object of how a container ended. -/
def Terminated.toJson (t : Terminated) : Json :=
  .record t.others [
    ("exitCode", some (.int t.exitCode)),
    ("message", t.message.map .str),
    ("reason", t.reason.map .str)]

/-- The object of the state of a container. -/
def ContainerState.toJson (s : ContainerState) : Json :=
  .record s.others [("terminated", s.terminated.map Terminated.toJson)]

/-- The object of what the cluster says about a container. -/
def ContainerStatus.toJson (s : ContainerStatus) : Json :=
  .record s.others [
    ("lastState", s.lastState.map ContainerState.toJson),
    ("name", some (.str s.name)),
    ("state", s.state.map ContainerState.toJson)]

/-- The object of what the cluster says about a Pod. -/
def PodStatus.toJson (s : PodStatus) : Json :=
  .record s.others [
    ("containerStatuses", listField ContainerStatus.toJson s.containerStatuses),
    ("phase", s.phase.map .str)]

/-- The object of a rule. -/
def PolicyRule.toJson (r : PolicyRule) : Json :=
  .record r.others [
    ("apiGroups", r.apiGroups.map Json.ofTexts),
    ("resources", r.resources.map Json.ofTexts),
    ("verbs", some (Json.ofTexts r.verbs))]

/-- The object of a reference to a Role. -/
def RoleRef.toJson (r : RoleRef) : Json :=
  .obj [("apiGroup", .str r.apiGroup), ("kind", .str r.kind), ("name", .str r.name)]

/-- The object of a subject. -/
def Subject.toJson (s : Subject) : Json :=
  ofFields [
    ("apiGroup", s.apiGroup.map .str),
    ("kind", some (.str s.kind)),
    ("name", some (.str s.name)),
    ("namespace", s.namespaceName.map .str)]

/-- The fields of an object beside its version, kind and metadata that the controller uses. -/
def Manifest.content : Manifest → List (String × Option Json)
  | .configMap c => [("data", c.data.map StringMap.toJson)]
  | .pod p => [("spec", p.spec.map PodSpec.toJson), ("status", p.status.map PodStatus.toJson)]
  | .serviceAccount _ => []
  | .role r => [("rules", listField PolicyRule.toJson r.rules)]
  | .roleBinding b =>
    [("roleRef", some b.roleRef.toJson), ("subjects", listField Subject.toJson b.subjects)]

/-- The other fields of an object. -/
def Manifest.others : Manifest → List (String × Json)
  | .configMap c => c.others
  | .serviceAccount s => s.others
  | .pod _ | .role _ | .roleBinding _ => []

/-- The object of a manifest, with its version and kind. -/
def Manifest.toJson (m : Manifest) : Json :=
  .record m.others (
    [("apiVersion", some (.str m.apiVersion)), ("kind", some (.str m.kind)),
      ("metadata", some m.metadata.toJson)] ++ m.content)

/-- Whether a value is an object of the manifest's kind. -/
def Manifest.accepts (m : Manifest) (j : Json) : Bool :=
  match m with
  | .configMap _ => (ConfigMap.read? j).isSome
  | .pod _ => (Pod.read? j).isSome
  | .serviceAccount _ => (ServiceAccount.read? j).isSome
  | .role _ => (Role.read? j).isSome
  | .roleBinding _ => (RoleBinding.read? j).isSome

end Proctor
