import Reconciler.Instance.State
import Reconciler.Provider.Error
import Reconciler.Retry
import Reconciler.Settings.Error

/-!
# Failures of an operation

Why bringing an instance to its configuration did not succeed. A `Failure` names its cause; the
texts are in `Failure.message`, and `Failure.sources` gives the texts of the causes behind it, the
nearest first.
-/

namespace Reconciler

/-- Why an operation on an instance failed. -/
inductive Failure where
  /-- A remote call failed. -/
  | remote (action : String) (cause : RemoteError)
  /-- A wait passed its deadline; `lastError` is the text of the last failure it looked past. -/
  | timeout (action : String) (instanceId : InstanceId) (lastError : Option String)
  /-- An instance being created reported that it has failed. -/
  | enteredError (instanceId : InstanceId) (action : String)
  /-- An existing instance reported that it has failed. -/
  | transitionedToError (instanceId : InstanceId) (action : String)
  /-- The change cannot be made to an existing instance, for all of these reasons. -/
  | unsupported (reasons : List String)
  /-- Nothing is reported about the public address of the instance. -/
  | missingPublicIpRecord (instanceId : InstanceId)
  /-- A floating address is wanted on a network the instance is not attached to. -/
  | missingAttachment (networkId : String) (instanceId : InstanceId)
  /-- A wanted network does not exist. -/
  | unknownNetwork (networkId : String)
  /-- A wanted network has no subnet to take an address from. -/
  | networkWithoutSubnet (networkId : String)
  /-- The instance was created, and a later step failed; `state` is as far as it came. -/
  | incomplete (state : InstanceState) (cause : Failure)
  /-- The settings cannot be used. -/
  | settings (cause : SettingsError)
  deriving DecidableEq

namespace Failure

/-- A change that cannot be made for one reason. -/
def unsupportedFor (reason : String) : Failure := .unsupported [reason]

/-- The text of a failure. -/
def message : Failure → String
  | .remote action cause => action ++ " failed: " ++ cause.message
  | .timeout action instanceId _ =>
    "timeout waiting for " ++ action ++ " on instance " ++ instanceId
  | .enteredError instanceId action =>
    "instance " ++ instanceId ++ " entered ERROR state while waiting for " ++ action
  | .transitionedToError instanceId action =>
    "instance " ++ instanceId ++ " state transitioned to ERROR while waiting for " ++ action
  | .unsupported reasons => "unsupported operation: " ++ "; ".intercalate reasons
  | .missingPublicIpRecord instanceId => "no IP information reported for instance " ++ instanceId
  | .missingAttachment networkId instanceId =>
    "instance " ++ instanceId ++ " has no attachment on network " ++ networkId
  | .unknownNetwork networkId => "network " ++ networkId ++ " not found"
  | .networkWithoutSubnet networkId => "network " ++ networkId ++ " has no subnet"
  | .incomplete state cause =>
    "instance " ++ state.id ++ " created but not fully converged: " ++ cause.message
  | .settings cause => "configuration error: " ++ cause.message

/-- The texts of the causes behind a failure, the nearest first. -/
def sources : Failure → List String
  | .remote _ cause => [cause.message]
  | .incomplete _ cause => cause.message :: cause.sources
  | .settings cause => [cause.message]
  | _ => []

/-- A call that found nothing, or that the provider failed at, may succeed later; a refused one is
left to the policy; everything else is final. -/
def retryClass : Failure → RetryClass
  | .remote _ (.notFound _) => .transient
  | .remote _ (.server _ _) => .transient
  | .remote _ (.client _ _) => .client
  | _ => .fatal

instance : Retryable Failure := ⟨retryClass, message⟩

end Failure

end Reconciler
