import Reconciler.Lifecycle.Basic

/-!
# Waiting for the status of an instance

The waits that updates and deletions share: for an instance to report a status, and for it to be
gone.
-/

namespace Reconciler

/-- Looks whether an instance reports a status. An instance that reports it has failed will not come
to any other status. -/
def statusCheck (region : Region) (instanceId : InstanceId) (target : Status) (action : String) :
    Program (Check Failure Unit) := do
  match ← Program.request region (.getServer instanceId) with
  | .error e => return .failed (.remote "get instance" e)
  | .ok (detail : ServerDetail) =>
    if detail.status = target then return .done ()
    else if detail.status = .error then return .failed (.transitionedToError instanceId action)
    else return .notYet

/-- Waits until an instance reports a status. -/
def awaitStatus (t : Tuning) (region : Region) (instanceId : InstanceId) (target : Status)
    (action : String) (deadline : Instant) : Task Unit :=
  ExceptT.mk do
    let result ← (t.wait deadline).poll (statusCheck region instanceId target action)
    return awaited action instanceId result

/-- Looks whether an instance is gone. -/
def goneCheck (region : Region) (instanceId : InstanceId) : Program (Check Failure Unit) := do
  match ← Program.request region (.getServer instanceId) with
  | .ok _ => return .notYet
  | .error e =>
    if e.isNotFound then return .done () else return .failed (.remote "get instance" e)

/-- Waits until an instance is gone. -/
def awaitGone (t : Tuning) (region : Region) (instanceId : InstanceId) (deadline : Instant) :
    Task Unit :=
  ExceptT.mk do
    let result ← (t.wait deadline).poll (goneCheck region instanceId)
    return awaited "instance deletion" instanceId result

end Reconciler
