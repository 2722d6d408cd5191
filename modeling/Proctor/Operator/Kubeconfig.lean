import Proctor.Yaml.Document

/-!
# How to reach a cluster

A file names clusters, users and contexts; the current context tells which cluster is meant, in
which namespace, and as which user. The documents of a file are put together: what an earlier one
says counts, and a later one may add what was not named yet.
-/

namespace Proctor

open Yaml (Value)

/-- How a cluster is reached. -/
structure ClusterEntry where
  /-- The address of its API server. -/
  server : Option String := none
  /-- The file with the certificates it is known by. -/
  certificateFile : Option String := none
  /-- The certificates it is known by, in base 64. -/
  certificates : Option String := none
  /-- The address of a proxy. -/
  proxy : Option String := none
  /-- The name it goes by in its certificate. -/
  serverName : Option String := none
  deriving DecidableEq, Inhabited

/-- Another program that knows who a user is. -/
structure Provider where
  /-- Its name. -/
  name : String
  /-- Its settings. -/
  settings : List (String × String) := []
  deriving DecidableEq, Inhabited

/-- Who a user is. -/
structure UserEntry where
  /-- The name. -/
  username : Option String := none
  /-- The password. -/
  password : Option String := none
  /-- A token. -/
  token : Option String := none
  /-- The file with a token. -/
  tokenFile : Option String := none
  /-- The user's certificate, in base 64. -/
  certificate : Option String := none
  /-- The key that belongs to it, in base 64. -/
  key : Option String := none
  /-- The user that requests are made for. -/
  impersonated : Option String := none
  /-- The groups that requests are made for. -/
  groups : List String := []
  /-- Another program that knows the token. -/
  provider : Option Provider := none
  /-- The token is told by a command. -/
  hasCommand : Bool := false
  deriving DecidableEq, Inhabited

/-- A cluster seen by a user. -/
structure ContextEntry where
  /-- The name of the cluster. -/
  cluster : String
  /-- The name of the user. -/
  user : Option String := none
  /-- The namespace that is meant. -/
  namespaceName : Option String := none
  deriving DecidableEq, Inhabited

/-- What a configuration file holds. -/
structure Kubeconfig where
  /-- The kind that the file says it is of. -/
  kind : Option String := none
  /-- The API version that the file says it has. -/
  apiVersion : Option String := none
  /-- The name of the context that is used. -/
  currentContext : Option String := none
  /-- The contexts by name. -/
  contexts : List (String × Option ContextEntry) := []
  /-- The clusters by name. -/
  clusters : List (String × Option ClusterEntry) := []
  /-- The users by name. -/
  users : List (String × Option UserEntry) := []
  deriving DecidableEq, Inhabited

namespace Kubeconfig

open Yaml.Value (field? required? list? str? bool?)

/-! ### Reading -/

mutual

/-- A value without tags whose objects have texts as names. -/
def isUntagged : Value → Bool
  | .tagged _ _ => false
  | .list items => areUntagged items
  | .object entries => haveUntagged entries
  | _ => true

/-- Values without tags. -/
def areUntagged : List Value → Bool
  | [] => true
  | v :: rest => isUntagged v && areUntagged rest

/-- Fields without tags on their values, and with texts as names. -/
def haveUntagged : List (Value × Value) → Bool
  | [] => true
  | (k, v) :: rest => k.str?.isSome && isUntagged v && haveUntagged rest

end

/-- Any value without tags. -/
def anything? (v : Value) : Option Value := if isUntagged v then some v else none

/-- Something added to the format, with a name. -/
def extension? (v : Value) : Option Unit := do
  let f ← v.fields?
  let _ ← required? str? "name" f
  let _ ← required? anything? "extension" f
  some ()

/-- A field that may be left out, but not be `null`. -/
def given? {α : Type} (read : Value → Option α) (name : String) (f : List (String × Value)) :
    Option (Option α) :=
  if f.any (·.1 = name) then (required? read name f).map some else some none

/-- Texts by name. -/
def texts? (v : Value) : Option (List (String × String)) := do
  (← v.fields?).mapM fun f => f.2.str?.map (f.1, ·)

/-- How a cluster is reached. -/
def cluster? (v : Value) : Option ClusterEntry := do
  let f ← v.fields?
  let server ← field? str? "server" f
  let _ ← field? bool? "insecure-skip-tls-verify" f
  let certificateFile ← field? str? "certificate-authority" f
  let certificates ← field? str? "certificate-authority-data" f
  let proxy ← field? str? "proxy-url" f
  let _ ← field? bool? "disable-compression" f
  let serverName ← field? str? "tls-server-name" f
  let _ ← field? (list? extension?) "extensions" f
  some { server, certificateFile, certificates, proxy, serverName }

/-- When a command may ask something. -/
def mode? (v : Value) : Option Unit :=
  let word := match v with
    | .str s => s
    | .tagged s .null => s
    | _ => ""
  if word ∈ ["Never", "IfAvailable", "Always"] then some () else none

/-- A command that tells a token. -/
def command? (v : Value) : Option Unit := do
  let f ← v.fields?
  let _ ← field? str? "apiVersion" f
  let _ ← field? str? "command" f
  let _ ← field? (list? str?) "args" f
  let _ ← field? (list? texts?) "env" f
  let _ ← field? mode? "interactiveMode" f
  let _ ← given? bool? "provideClusterInfo" f
  some ()

/-- Another program that knows the token. -/
def provider? (v : Value) : Option Provider := do
  let f ← v.fields?
  let name ← required? str? "name" f
  let settings ← given? texts? "config" f
  some { name, settings := settings.getD [] }

/-- Who a user is. -/
def user? (v : Value) : Option UserEntry := do
  let f ← v.fields?
  let username ← field? str? "username" f
  let password ← field? str? "password" f
  let token ← field? str? "token" f
  let tokenFile ← field? str? "tokenFile" f
  let _ ← field? str? "client-certificate" f
  let certificate ← field? str? "client-certificate-data" f
  let _ ← field? str? "client-key" f
  let key ← field? str? "client-key-data" f
  let impersonated ← field? str? "as" f
  let groups ← field? (list? str?) "as-groups" f
  let provider ← field? provider? "auth-provider" f
  let command ← field? command? "exec" f
  some {
    username, password, token, tokenFile, certificate, key, impersonated, groups := groups.getD [],
    provider, hasCommand := command.isSome }

/-- A context. -/
def context? (v : Value) : Option ContextEntry := do
  let f ← v.fields?
  let cluster ← required? str? "cluster" f
  let user ← field? str? "user" f
  let namespaceName ← field? str? "namespace" f
  let _ ← field? (list? extension?) "extensions" f
  some { cluster, user, namespaceName }

/-- Something with a name. -/
def named? {α : Type} (key : String) (read : Value → Option α) (v : Value) :
    Option (String × Option α) := do
  let f ← v.fields?
  let name ← required? str? "name" f
  let content ← field? read key f
  some (name, content)

/-- What is preferred where the cluster is shown. -/
def preferences? (v : Value) : Option Unit := do
  let f ← v.fields?
  let _ ← field? bool? "colors" f
  let _ ← field? (list? extension?) "extensions" f
  some ()

/-- What a document of a configuration file holds. -/
def ofValue? (v : Value) : Option Kubeconfig := do
  let f ← v.fields?
  let _ ← field? preferences? "preferences" f
  let clusters ← field? (list? (named? "cluster" cluster?)) "clusters" f
  let users ← field? (list? (named? "user" user?)) "users" f
  let contexts ← field? (list? (named? "context" context?)) "contexts" f
  let currentContext ← field? str? "current-context" f
  let _ ← field? (list? extension?) "extensions" f
  let kind ← field? str? "kind" f
  let apiVersion ← field? str? "apiVersion" f
  some {
    kind, apiVersion, currentContext, contexts := contexts.getD [], clusters := clusters.getD [],
    users := users.getD [] }

/-! ### Putting documents together -/

/-- What is named, with what is named further on for the first time. -/
def addNew {α : Type} (first next : List (String × α)) : List (String × α) :=
  first ++ next.filter fun e => !first.any (·.1 = e.1)

/-- Two texts that do not contradict each other. -/
def agree (first next : Option String) : Bool :=
  first.isNone || next.isNone || first == next

/-- Two documents as one, if they are of the same kind and version. -/
def merge? (first next : Kubeconfig) : Option Kubeconfig :=
  if agree first.kind next.kind && agree first.apiVersion next.apiVersion then
    some {
      kind := first.kind.or next.kind
      apiVersion := first.apiVersion.or next.apiVersion
      currentContext := first.currentContext.or next.currentContext
      contexts := addNew first.contexts next.contexts
      clusters := addNew first.clusters next.clusters
      users := addNew first.users next.users }
  else none

/-- The mark with which a file may begin. -/
def withoutMark (text : String) : String :=
  match text.toList with
  | c :: rest => if c = Yaml.beginningMark then String.ofList rest else text
  | [] => text

/-- What the text of a configuration file holds; an empty one holds nothing. -/
def read? (text : String) : Option Kubeconfig := do
  let documents ← (← Yaml.read? (withoutMark text)).mapM ofValue?
  match documents with
  | [] => some {}
  | first :: rest => rest.foldlM merge? first

end Kubeconfig

end Proctor
