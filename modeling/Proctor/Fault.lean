import Proctor.Api.Address
import Proctor.Test.Validation
import Proctor.Text.Debug

/-!
# Faults

What can go wrong while a Test is driven through its phases, by its cause. The wording is derived
from the cause in one place, and so is the question whether a write met a conflict.
-/

namespace Proctor

/-- What the API server says when it refuses a request. -/
structure Refusal where
  /-- The outcome. -/
  status : String
  /-- An explanation. -/
  message : String
  /-- A word for the reason. -/
  reason : String
  /-- The HTTP status. -/
  code : Nat
  deriving DecidableEq, Repr

/-- Why no answer could be had from the API server. -/
inductive ApiFault where
  /-- The server refused the request. -/
  | refused (r : Refusal)
  /-- The object to ask about has an empty name. -/
  | emptyName
  /-- The request cannot be addressed. -/
  | unaddressable (f : AddressFault)
  /-- The connection broke, or the answer was not of the expected kind. -/
  | unusable
  deriving DecidableEq, Repr

/-- Why a client for the API server could not be made. -/
inductive SetupStage where
  /-- The configuration could not be read. -/
  | read
  /-- The configuration names no usable cluster. -/
  | load
  /-- No configuration could be found. -/
  | infer
  /-- The connection that the configuration asks for is not supported. -/
  | create
  deriving DecidableEq, Repr

/-- Causes inside the controller. -/
inductive InternalCause where
  /-- An object to apply has no name. -/
  | unnamed (kind : String)
  /-- An object to apply has no namespace. -/
  | unplaced (kind name : String)
  /-- An owner was never stored. -/
  | noUid (name : String)
  /-- No client could be made. -/
  | setup (stage : SetupStage)
  /-- A cause told by someone else. -/
  | stated (context message : String)
  deriving DecidableEq, Repr

/-- What went wrong. -/
inductive Fault where
  /-- The API server gave no good answer. -/
  | api (f : ApiFault)
  /-- A Test was refused. -/
  | invalid (test : String) (problem : Problem)
  /-- A value could not be read or written. -/
  | unreadable (message : String)
  /-- All attempts to write met a conflict. -/
  | conflict (test : String) (attempts : Nat)
  /-- Something failed inside the controller. -/
  | internal (cause : InternalCause)
  /-- A Test is in no namespace. -/
  | missingNamespace
  /-- A generation was never begun. -/
  | missingTestId (test : String)
  deriving DecidableEq, Repr

/-- The wording of a refusal: its own text, then all its parts. -/
def Refusal.describe (r : Refusal) : String :=
  r.message ++ ": " ++ r.reason ++ " (ErrorResponse \x7b status: " ++ Text.debug r.status ++
    ", message: " ++ Text.debug r.message ++ ", reason: " ++ Text.debug r.reason ++
    ", code: " ++ toString r.code ++ " \x7d)"

/-- The wording of what is wrong with an address. -/
def AddressFault.message : AddressFault → String
  | .badCharacter => "invalid uri character"
  | .tooLong => "uri too long"

/-- The wording of a fault of the API server. -/
def ApiFault.message : ApiFault → String
  | .refused r => "ApiError: " ++ r.describe
  | .emptyName =>
    "Failed to build request: failed to validate request: A non-empty name is required"
  | .unaddressable f => "Failed to build request: failed to build request: " ++ f.message
  | .unusable => "no usable answer"

/-- The wording of the stage that failed. -/
def SetupStage.message : SetupStage → String
  | .read => "failed to read kubeconfig"
  | .load => "failed to load kubeconfig"
  | .infer => "failed to infer config"
  | .create => "failed to create client"

/-- Where a cause inside the controller arose. -/
def InternalCause.context : InternalCause → String
  | .unnamed _ | .unplaced _ _ => "apply"
  | .noUid _ => "owner_reference"
  | .setup _ => "create_client"
  | .stated context _ => context

/-- The wording of a cause inside the controller. -/
def InternalCause.message : InternalCause → String
  | .unnamed kind => kind ++ " has no name"
  | .unplaced kind name => kind ++ " " ++ name ++ " has no namespace"
  | .noUid name => name ++ " has no uid"
  | .setup stage => stage.message
  | .stated _ message => message

namespace Fault

/-- The wording of a fault. -/
def message : Fault → String
  | .api f => "kubernetes error: " ++ f.message
  | .invalid test problem => "validation error for " ++ test ++ ": " ++ problem.message
  | .unreadable message => "serialization error: " ++ message
  | .conflict test attempts =>
    "conflict updating " ++ test ++ " after " ++ toString attempts ++ " attempts"
  | .internal cause => "internal error [" ++ cause.context ++ "]: " ++ cause.message
  | .missingNamespace => "missing namespace on Test"
  | .missingTestId test => "Test '" ++ test ++ "' has no TestID; it was never initialized"

/-- The word for the kind of a fault. -/
def kind : Fault → String
  | .api _ => "kube"
  | .invalid _ _ => "validation"
  | .unreadable _ => "serialization"
  | .conflict _ _ => "conflict"
  | .internal _ => "internal"
  | .missingNamespace | .missingTestId _ => "invalid-state"

/-- A write met a newer version, at this attempt or at the last one. -/
def isConflict : Fault → Bool
  | .api (.refused r) => r.code == 409
  | .conflict _ _ => true
  | _ => false

end Fault

/-- The context of a problem that is not known to belong to a Test. -/
def unknownContext : String := "unknown"

/-- A spec without a problem. -/
def Spec.check (s : Spec) : Except Fault Unit :=
  match s.problem? with
  | none => .ok ()
  | some p => .error (.invalid unknownContext p)

/-- A Test without a problem. -/
def Test.check (t : Test) : Except Fault Unit :=
  match t.problem? with
  | none => .ok ()
  | some p => .error (.invalid (t.metadata.name.getD "") p)

end Proctor
