import Proctor.Api.Address
import Proctor.Api.HostName
import Proctor.Digest.Certificate
import Proctor.Fault
import Proctor.Operator.Kubeconfig

/-!
# A client from a configuration

From the current context the settings of a client are derived, and from them a client is made, or it
is told at which stage that fails. Files that the configuration names are not looked for.
-/

namespace Proctor

/-! ### Clusters and users -/

/-- The certificates that a cluster is known by. -/
def ClusterEntry.bundle? (c : ClusterEntry) : Option (List (List UInt8)) :=
  match c.certificates, c.certificateFile with
  | some text, _ => (Base64.decode? text.toList).bind Certificate.bundle?
  | none, some _ => none
  | none, none => some []

/-- A provider tells a token. -/
def Provider.tellsToken (p : Provider) : Bool :=
  p.name ∈ ["oidc", "gcp"] && p.settings.any (·.1 = "id-token")

/-- It can be told who a user is: by a provider if one is named, else by what the configuration
says itself. A token in a file is not found, and commands are not run. -/
def UserEntry.isKnown (u : UserEntry) : Bool :=
  match u.provider with
  | some p => p.tellsToken
  | none =>
    (u.username.isSome && u.password.isSome) || u.token.isSome ||
      (u.tokenFile.isNone && !u.hasCommand)

/-- A text that may be sent in front of a request. -/
def isHeader (s : String) : Bool :=
  s.toList.all fun c => c == '\t' || (0x20 ≤ c.toNat && c.toNat < 0x7F)

/-- A certificate with its key is given. No pair of them is taken. -/
def UserEntry.hasPair (u : UserEntry) : Bool :=
  let isGiven (s : Option String) : Bool := (s.bind fun s => Base64.decode? s.toList).isSome
  isGiven u.certificate && isGiven u.key

namespace Kubeconfig

/-! ### Settings -/

/-- The settings of a client. -/
structure Settings where
  /-- The address of the API server. -/
  server : String
  /-- The namespace that is meant where none is named. -/
  defaultNamespace : String
  /-- The certificates that the server is known by. -/
  certificates : List (List UInt8)
  /-- The name that the server goes by in its certificate. -/
  serverName : Option String
  /-- The address of a proxy. -/
  proxy : Option String
  /-- The user. -/
  user : UserEntry
  deriving DecidableEq

/-- The settings that the current context asks for. -/
def settings? (k : Kubeconfig) : Option Settings := do
  let current ← k.currentContext
  let context ← (← k.contexts.find? (·.1 = current)).2
  let cluster ← (← k.clusters.find? (·.1 = context.cluster)).2
  let user := (context.user.bind fun u => (k.users.find? (·.1 = u)).bind (·.2)).getD {}
  let server ← cluster.server
  let certificates ← cluster.bundle?
  let proxy := cluster.proxy.filter (· ≠ "")
  if Address.isValid server ∧ proxy.all Address.isValid then
    some {
      server, defaultNamespace := context.namespaceName.getD "default", certificates,
      serverName := cluster.serverName, proxy, user }
  else none

/-! ### Clients -/

/-- Settings from which a client can be made. No proxy is supported. -/
def Settings.isSupported (s : Settings) : Bool :=
  s.user.isKnown && s.certificates.all Certificate.isCertificate && !s.user.hasPair &&
    s.serverName.all HostName.isValid && s.proxy.isNone && s.user.impersonated.all isHeader &&
    s.user.groups.all isHeader

/-- A client is made from its settings. -/
def Settings.create (s : Settings) : Except Fault Settings :=
  if s.isSupported then .ok s else .error (.internal (.setup .create))

/-- A client from the text of the file that was named; no file is there without a text. -/
def connect (text : Option String) : Except Fault Settings := do
  let k ← match text.bind read? with
    | some k => pure k
    | none => .error (.internal (.setup .read))
  let s ← match k.settings? with
    | some s => pure s
    | none => .error (.internal (.setup .load))
  s.create

/-- A client from the text of the file that the environment names. -/
def infer (text : Option String) : Except Fault Settings := do
  let s ← match (text.bind read?).bind settings? with
    | some s => pure s
    | none => .error (.internal (.setup .infer))
  s.create

/-- The seconds that a connection may take. -/
def connectSecs : Nat := 5

/-- The seconds that an answer may take. -/
def readSecs : Nat := 30

end Kubeconfig

end Proctor
