import Proctor.Cluster.Shape.Reference

/-!
# Sources of volumes

The shapes of everything that a volume of a Pod can show.
-/

namespace Proctor

open Shape (free written)

namespace Shape

/-- The fields of a disk that is reached over the network: the kind of its file system, and whether
it can only be read. -/
def disk : List (Field Shape) := free .text ["fsType"] ++ free .flag ["readOnly"]

/-- The Secret that holds the password of a disk. -/
def password : List (Field Shape) := free namedObject ["secretRef"]

/-! ### Files made from objects -/

/-- A file that tells something about the Pod. -/
def aboutFile : Shape := .record (
  written .text ["path"] ++ free objectField ["fieldRef"] ++ free .whole32 ["mode"] ++
  free resourceField ["resourceFieldRef"])

/-- Files that tell something about the Pod. -/
def aboutFiles : List (Field Shape) := free (.list aboutFile) ["items"]

/-- Entries that are put into files. -/
def entryFiles : List (Field Shape) := free (.list entryFile) ["items"]

/-- Entries of an object that is named, and that need not be there. -/
def namedEntries : Shape := .record (
  written .text ["name"] ++ entryFiles ++ free .flag ["optional"])

/-- One of the sources that a volume gathers. -/
def gatheredSource : Shape := .record (
  free (.record (
    written .text ["path"] ++ free selector ["labelSelector"] ++
    free .text ["name", "signerName"] ++ free .flag ["optional"])) ["clusterTrustBundle"] ++
  free namedEntries ["configMap", "secret"] ++
  free (.record aboutFiles) ["downwardAPI"] ++
  free (.record (
    written .text ["path"] ++ free .text ["audience"] ++ free .whole64 ["expirationSeconds"]))
    ["serviceAccountToken"])

/-! ### Claims -/

/-- What a claim asks for. -/
def claimSpec : Shape := .record (
  free texts ["accessModes"] ++ free kindObject ["dataSource"] ++
  free placedObject ["dataSourceRef"] ++ free (.record shares) ["resources"] ++
  free selector ["selector"] ++
  free .text ["storageClassName", "volumeAttributesClassName", "volumeMode", "volumeName"])

/-- A claim that is made for the Pod. -/
def claimTemplate : Shape := .record (free metadata ["metadata"] ++ written claimSpec ["spec"])

/-! ### Sources -/

/-- The fields of a volume that name a disk of a provider. -/
def providerDisks : List (Field Shape) :=
  free (.record (written .text ["volumeID"] ++ disk ++ free .whole32 ["partition"]))
    ["awsElasticBlockStore"] ++
  free (.record (
    written .text ["diskName", "diskURI"] ++ disk ++ free .text ["cachingMode", "kind"]))
    ["azureDisk"] ++
  free (.record (written .text ["secretName", "shareName"] ++ free .flag ["readOnly"]))
    ["azureFile"] ++
  free (.record (written .text ["volumeID"] ++ disk ++ password)) ["cinder"] ++
  free (.record (written .text ["pdName"] ++ disk ++ free .whole32 ["partition"]))
    ["gcePersistentDisk"] ++
  free (.record (written .text ["pdID"] ++ free .text ["fsType"])) ["photonPersistentDisk"] ++
  free (.record (written .text ["volumeID"] ++ disk)) ["portworxVolume"] ++
  free (.record (
    written .text ["volumePath"] ++
    free .text ["fsType", "storagePolicyID", "storagePolicyName"])) ["vsphereVolume"]

/-- The fields of a volume that name a disk on the network. -/
def networkDisks : List (Field Shape) :=
  free (.record (
    written texts ["monitors"] ++ free .text ["path", "secretFile", "user"] ++
    free .flag ["readOnly"] ++ password)) ["cephfs"] ++
  free (.record (disk ++ free .whole32 ["lun"] ++ free texts ["targetWWNs", "wwids"])) ["fc"] ++
  free (.record (free .text ["datasetName", "datasetUUID"])) ["flocker"] ++
  free (.record (written .text ["endpoints", "path"] ++ free .flag ["readOnly"]))
    ["glusterfs"] ++
  free (.record (
    written .text ["iqn", "targetPortal"] ++ written .whole32 ["lun"] ++ disk ++
    free .flag ["chapAuthDiscovery", "chapAuthSession"] ++
    free .text ["initiatorName", "iscsiInterface"] ++ free texts ["portals"] ++ password))
    ["iscsi"] ++
  free (.record (written .text ["path", "server"] ++ free .flag ["readOnly"])) ["nfs"] ++
  free (.record (
    written .text ["registry", "volume"] ++ free .text ["group", "tenant", "user"] ++
    free .flag ["readOnly"])) ["quobyte"] ++
  free (.record (
    written .text ["image"] ++ written texts ["monitors"] ++ disk ++
    free .text ["keyring", "pool", "user"] ++ password)) ["rbd"] ++
  free (.record (
    written .text ["gateway", "system"] ++ written namedObject ["secretRef"] ++ disk ++
    free .flag ["sslEnabled"] ++
    free .text ["protectionDomain", "storageMode", "storagePool", "volumeName"])) ["scaleIO"] ++
  free (.record (disk ++ password ++ free .text ["volumeName", "volumeNamespace"])) ["storageos"]

/-- The fields of a volume whose files come from the cluster itself. -/
def clusterSources : List (Field Shape) :=
  free (.record (
    written .text ["driver"] ++ disk ++ free namedObject ["nodePublishSecretRef"] ++
    free labels ["volumeAttributes"])) ["csi"] ++
  free (.record (free .whole32 ["defaultMode"] ++ aboutFiles)) ["downwardAPI"] ++
  free (.record (free .text ["medium"] ++ free amount ["sizeLimit"])) ["emptyDir"] ++
  free (.record (free claimTemplate ["volumeClaimTemplate"])) ["ephemeral"] ++
  free (.record (written .text ["driver"] ++ disk ++ password ++ free labels ["options"]))
    ["flexVolume"] ++
  free (.record (written .text ["repository"] ++ free .text ["directory", "revision"]))
    ["gitRepo"] ++
  free (.record (written .text ["path"] ++ free .text ["type"])) ["hostPath"] ++
  free (.record (free .text ["pullPolicy", "reference"])) ["image"] ++
  free (.record (written .text ["claimName"] ++ free .flag ["readOnly"]))
    ["persistentVolumeClaim"] ++
  free (.record (free .whole32 ["defaultMode"] ++ free (.list gatheredSource) ["sources"]))
    ["projected"]

end Shape

/-- The fields of a volume beside its name, its ConfigMap and its Secret. -/
def Volume.otherFields : List (Shape.Field Shape) :=
  Shape.providerDisks ++ Shape.networkDisks ++ Shape.clusterSources

/-- The fields of the ConfigMap of a volume beside its name. -/
def ConfigMapVolume.otherFields : List (Shape.Field Shape) :=
  free .whole32 ["defaultMode"] ++ Shape.entryFiles ++ free .flag ["optional"]

/-- The fields of the Secret of a volume beside its name. -/
def SecretVolume.otherFields : List (Shape.Field Shape) := ConfigMapVolume.otherFields

end Proctor
