import Proctor.Cluster.Meta

/-!
# Objects of the cluster

The kinds of objects that a run of a Test is made of. The fields that the controller sets or reads
are told one by one; the others are kept as they are written, so that an object loses nothing on its
way through the controller. What is unset is told apart from what is empty.
-/

namespace Proctor

/-- Named texts, mounted as files. -/
structure ConfigMap where
  /-- Its metadata. -/
  metadata : ObjectMeta := {}
  /-- The texts by name. -/
  data : Option StringMap := none
  /-- The other fields, as they are written. -/
  others : List (String × Json) := []
  deriving DecidableEq, Inhabited

/-- An identity for Pods. -/
structure ServiceAccount where
  /-- Its metadata. -/
  metadata : ObjectMeta := {}
  /-- The other fields, as they are written. -/
  others : List (String × Json) := []
  deriving DecidableEq, Inhabited

/-- What may be done with which resources. -/
structure PolicyRule where
  /-- The API groups. -/
  apiGroups : Option (List String) := none
  /-- The resources. -/
  resources : Option (List String) := none
  /-- What may be done. -/
  verbs : List String := []
  /-- The other fields, as they are written. -/
  others : List (String × Json) := []
  deriving DecidableEq, Inhabited

/-- A set of rules. -/
structure Role where
  /-- Its metadata. -/
  metadata : ObjectMeta := {}
  /-- The rules. -/
  rules : Option (List PolicyRule) := none
  deriving DecidableEq, Inhabited

/-- A reference to a Role. -/
structure RoleRef where
  /-- The API group. -/
  apiGroup : String := ""
  /-- The kind. -/
  kind : String := ""
  /-- The name. -/
  name : String := ""
  deriving DecidableEq, Inhabited

/-- Someone who is given a Role. -/
structure Subject where
  /-- The API group. -/
  apiGroup : Option String := none
  /-- The kind. -/
  kind : String := ""
  /-- The name. -/
  name : String := ""
  /-- The namespace. -/
  namespaceName : Option String := none
  deriving DecidableEq, Inhabited

/-- Gives a Role to subjects. -/
structure RoleBinding where
  /-- Its metadata. -/
  metadata : ObjectMeta := {}
  /-- The Role. -/
  roleRef : RoleRef := {}
  /-- Those who are given it. -/
  subjects : Option (List Subject) := none
  deriving DecidableEq, Inhabited

/-- A variable of the environment. -/
structure EnvVar where
  /-- Its name. -/
  name : String := ""
  /-- Its value. -/
  value : Option String := none
  /-- The other fields, as they are written. -/
  others : List (String × Json) := []
  deriving DecidableEq, Inhabited

/-- The variable of that name with a value. -/
def EnvVar.ofValue (name value : String) : EnvVar := { name, value := some value }

/-- A volume put into the file system of a container. -/
structure VolumeMount where
  /-- The directory. -/
  mountPath : String := ""
  /-- The volume. -/
  name : String := ""
  /-- Nothing can be written there. -/
  readOnly : Option Bool := none
  /-- The other fields, as they are written. -/
  others : List (String × Json) := []
  deriving DecidableEq, Inhabited

/-- The mount of a volume at a directory in which nothing can be written. -/
def VolumeMount.readOnlyAt (mountPath name : String) : VolumeMount :=
  { mountPath, name, readOnly := some true }

/-- The Secret that a volume shows. -/
structure SecretVolume where
  /-- Its name. -/
  secretName : Option String := none
  /-- The other fields, as they are written. -/
  others : List (String × Json) := []
  deriving DecidableEq, Inhabited

/-- The ConfigMap that a volume shows. -/
structure ConfigMapVolume where
  /-- Its name. -/
  name : String := ""
  /-- The other fields, as they are written. -/
  others : List (String × Json) := []
  deriving DecidableEq, Inhabited

/-- Files for the containers of a Pod. -/
structure Volume where
  /-- The name of the volume. -/
  name : String := ""
  /-- The ConfigMap that it shows. -/
  configMap : Option ConfigMapVolume := none
  /-- The Secret that it shows. -/
  secret : Option SecretVolume := none
  /-- The other fields, as they are written. -/
  others : List (String × Json) := []
  deriving DecidableEq, Inhabited

/-- A process of a Pod. -/
structure Container where
  /-- Its name. -/
  name : String := ""
  /-- Its image. -/
  image : Option String := none
  /-- When the image is fetched. -/
  imagePullPolicy : Option String := none
  /-- What it runs. -/
  command : Option (List String) := none
  /-- Its environment. -/
  env : Option (List EnvVar) := none
  /-- Its mounts. -/
  volumeMounts : Option (List VolumeMount) := none
  /-- The file that holds its last words. -/
  terminationMessagePath : Option String := none
  /-- Where its last words are taken from otherwise. -/
  terminationMessagePolicy : Option String := none
  /-- The other fields, as they are written. -/
  others : List (String × Json) := []
  deriving DecidableEq, Inhabited

/-- What a Pod is made of. -/
structure PodSpec where
  /-- Its containers. -/
  containers : List Container := []
  /-- Whether containers are started again. -/
  restartPolicy : Option String := none
  /-- The identity it runs as. -/
  serviceAccountName : Option String := none
  /-- Its volumes. -/
  volumes : Option (List Volume) := none
  /-- The other fields, as they are written. -/
  others : List (String × Json) := []
  deriving DecidableEq, Inhabited

/-- How a container ended. -/
structure Terminated where
  /-- The number it ended with. -/
  exitCode : Int := 0
  /-- Its last words. -/
  message : Option String := none
  /-- Why it ended. -/
  reason : Option String := none
  /-- The other fields, as they are written. -/
  others : List (String × Json) := []
  deriving DecidableEq, Inhabited

/-- The state of a container, as far as it has ended. -/
structure ContainerState where
  /-- How it ended. -/
  terminated : Option Terminated := none
  /-- The other fields, as they are written. -/
  others : List (String × Json) := []
  deriving DecidableEq, Inhabited

/-- What the cluster says about a container. -/
structure ContainerStatus where
  /-- The container. -/
  name : String := ""
  /-- Its state. -/
  state : Option ContainerState := none
  /-- The state before that. -/
  lastState : Option ContainerState := none
  /-- The other fields, as they are written. -/
  others : List (String × Json) := []
  deriving DecidableEq, Inhabited

/-- What the cluster says about a Pod. -/
structure PodStatus where
  /-- Where the Pod stands. -/
  phase : Option String := none
  /-- Its containers. -/
  containerStatuses : Option (List ContainerStatus) := none
  /-- The other fields, as they are written. -/
  others : List (String × Json) := []
  deriving DecidableEq, Inhabited

/-- Processes that run together. -/
structure Pod where
  /-- Its metadata. -/
  metadata : ObjectMeta := {}
  /-- What it is made of. -/
  spec : Option PodSpec := none
  /-- What the cluster says about it. -/
  status : Option PodStatus := none
  deriving DecidableEq, Inhabited

/-- An object that the controller applies. -/
inductive Manifest where
  /-- Named texts. -/
  | configMap (c : ConfigMap)
  /-- Processes. -/
  | pod (p : Pod)
  /-- An identity. -/
  | serviceAccount (s : ServiceAccount)
  /-- A set of rules. -/
  | role (r : Role)
  /-- Rules given to subjects. -/
  | roleBinding (b : RoleBinding)
  deriving DecidableEq

namespace Manifest

/-- The metadata of an object. -/
def metadata : Manifest → ObjectMeta
  | .configMap c => c.metadata
  | .pod p => p.metadata
  | .serviceAccount s => s.metadata
  | .role r => r.metadata
  | .roleBinding b => b.metadata

/-- The kind of an object. -/
def kind : Manifest → String
  | .configMap _ => "ConfigMap"
  | .pod _ => "Pod"
  | .serviceAccount _ => "ServiceAccount"
  | .role _ => "Role"
  | .roleBinding _ => "RoleBinding"

end Manifest

/-- The API group of Roles and what belongs to them. -/
def accessGroup : String := "rbac.authorization.k8s.io"

/-- The API version of an object. -/
def Manifest.apiVersion : Manifest → String
  | .configMap _ | .pod _ | .serviceAccount _ => "v1"
  | .role _ | .roleBinding _ => accessGroup ++ "/v1"

end Proctor
