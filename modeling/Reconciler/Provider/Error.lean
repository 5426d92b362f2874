/-!
# Failures of remote calls

A remote call that fails says that the resource does not exist, that the request was refused, or
that the provider itself failed.
-/

namespace Reconciler

/-- The failure of a remote call. -/
inductive RemoteError where
  /-- The addressed resource does not exist. -/
  | notFound (detail : String)
  /-- The provider refused the request. -/
  | client (status : Nat) (detail : String)
  /-- The provider failed. -/
  | server (status : Nat) (detail : String)
  deriving DecidableEq, Repr

namespace RemoteError

/-- The text of a failure. -/
def message : RemoteError → String
  | .notFound detail => "resource not found: " ++ detail
  | .client status detail => "request rejected with status " ++ toString status ++ ": " ++ detail
  | .server status detail => "provider failure with status " ++ toString status ++ ": " ++ detail

/-- Whether the failure says that the resource does not exist. -/
def isNotFound : RemoteError → Bool
  | .notFound _ => true
  | _ => false

end RemoteError

end Reconciler
