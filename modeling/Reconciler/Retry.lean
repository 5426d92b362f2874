/-!
# Which failures end a wait

A wait looks again after a failure that may pass. A failure has a `RetryClass`, and the policy of
the caller decides over the class of refused requests: either they are waited out like the others,
or the first of them ends the wait.
-/

namespace Reconciler

/-- How a failure bears on a wait. -/
inductive RetryClass where
  /-- The failure may pass. -/
  | transient
  /-- The request was refused; the policy decides. -/
  | client
  /-- The wait cannot succeed any more. -/
  | fatal
  deriving DecidableEq, Repr

/-- What a wait does about refused requests. -/
inductive PollPolicy where
  /-- It looks again until its deadline. -/
  | retryAll
  /-- The first of them ends the wait. -/
  | abortOnClientError
  deriving DecidableEq, Repr, Inhabited

/-- Whether a failure of a class ends a wait. -/
def PollPolicy.abortsOn : PollPolicy → RetryClass → Bool
  | _, .transient => false
  | _, .fatal => true
  | .retryAll, .client => false
  | .abortOnClientError, .client => true

/-- A failure with a class and a text. -/
class Retryable (ε : Type) where
  /-- How the failure bears on a wait. -/
  retryClass : ε → RetryClass
  /-- The text of the failure. -/
  describe : ε → String

end Reconciler
