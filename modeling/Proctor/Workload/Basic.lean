import Proctor.Config
import Proctor.Fault
import Proctor.Workload.EnvEntry
import Proctor.Workload.Viewer

/-!
# The workload of a generation

A generation runs as one Pod beside one ConfigMap with its files. Both are computed from the Test
and the settings of the controller alone, so that applying them again changes nothing.
-/

namespace Proctor

/-- The objects of a generation. -/
structure Workload where
  /-- The files. -/
  configMap : ConfigMap
  /-- The Pod that runs them. -/
  pod : Pod
  deriving DecidableEq

namespace Workload

/-- The name of the container that runs the test. -/
def containerName : String := "test"

/-- The directory of the files. -/
def testsPath : String := "/etc/yaks/tests"

/-- The directory of the Secret. -/
def secretsPath : String := "/etc/yaks/secrets"

/-- The file that takes the report. -/
def reportPath : String := "/dev/termination-log"

/-- The files of a spec by name. -/
def configData (s : Spec) : StringMap := .ofList (s.files.map fun f => (f.name, f.content))

/-- The variables that every run has. -/
def frameworkEnv (test namespaceName id : String) : List EnvVar :=
  [.ofValue "YAKS_TERMINATION_LOG" reportPath,
    .ofValue "YAKS_TESTS_PATH" testsPath,
    .ofValue "YAKS_NAMESPACE" namespaceName,
    .ofValue "YAKS_TEST_NAME" test,
    .ofValue "YAKS_TEST_ID" id]

/-- The variable of a run with a Secret. -/
def secretEnv (secret : Option String) : List EnvVar :=
  match secret with
  | none => []
  | some _ => [.ofValue "YAKS_SECRETS_PATH" secretsPath]

/-- The variables that a spec asks for. -/
def userEnv (entries : List String) : List EnvVar :=
  (entries.filterMap envVariable?).map fun e => .ofValue e.1 e.2

/-- The variable of a run with settings: the path of their file, or the settings themselves. -/
def settingsEnv (settings : Option Settings) : List EnvVar :=
  match settings with
  | none => []
  | some s =>
    match s.fileName? with
    | some file => [.ofValue "YAKS_SETTINGS_FILE" (testsPath ++ "/" ++ file)]
    | none =>
      if Text.isBlankText s.content then [] else [.ofValue "YAKS_DEPENDENCIES" s.content]

/-- All variables of a run, in their order. -/
def env (t : Test) (namespaceName id : String) : List EnvVar :=
  frameworkEnv t.nameAny namespaceName id ++ secretEnv t.spec.secret ++ userEnv t.spec.env ++
    settingsEnv t.spec.settings

/-- The volumes of a run. -/
def volumes (configMap : String) (secret : Option String) : List Volume :=
  { name := "tests", configMap := some { name := configMap } } ::
    (secret.map fun s =>
      ({ name := "secrets", secret := some { secretName := some s } } : Volume)).toList

/-- The mounts of a run. -/
def mounts (secret : Option String) : List VolumeMount :=
  .readOnlyAt testsPath "tests" ::
    (secret.map fun _ => VolumeMount.readOnlyAt secretsPath "secrets").toList

/-- The container that runs the test. -/
def container (t : Test) (namespaceName id : String) (config : Config) : Container :=
  { name := containerName
    image := some config.runtimeImage
    imagePullPolicy := some "IfNotPresent"
    command := some config.runtimeCommand
    env := some (env t namespaceName id)
    volumeMounts := some (mounts t.spec.secret)
    terminationMessagePath := some reportPath
    terminationMessagePolicy := some "FallbackToLogsOnError" }

/-- What the Pod is made of. -/
def podSpec (t : Test) (namespaceName id : String) (config : Config) : PodSpec :=
  { containers := [container t namespaceName id config]
    restartPolicy := some "Never"
    serviceAccountName := some Viewer.name
    volumes := some (volumes (generationName t.nameAny id) t.spec.secret) }

/-- The metadata of the objects. -/
def metadata (t : Test) (namespaceName id : String) (owner : OwnerReference) : ObjectMeta :=
  { name := some (generationName t.nameAny id)
    namespaceName := some namespaceName
    labels := some (workloadLabels t.nameAny id)
    ownerReferences := some [owner] }

end Workload

/-- A value that is given, or a fault. -/
def orFault {α : Type} (fault : Fault) : Option α → Except Fault α
  | some a => .ok a
  | none => .error fault

/-- The reference to a Test as an owner. -/
def Test.ownerReference (t : Test) : Except Fault OwnerReference :=
  orFault (.internal (.noUid t.nameAny)) t.ownerReference?

/-- The workload of a Test's current generation. -/
def Test.workload (t : Test) (config : Config) : Except Fault Workload := do
  t.check
  let namespaceName ← orFault .missingNamespace t.metadata.namespaceName
  let id ← orFault (.missingTestId t.nameAny) t.testId?
  let owner ← t.ownerReference
  let metadata := Workload.metadata t namespaceName id owner
  return {
    configMap := { metadata, data := some (Workload.configData t.spec) }
    pod := { metadata, spec := some (Workload.podSpec t namespaceName id config) } }

end Proctor
