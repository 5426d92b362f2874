import Reconciler.Lifecycle.Waiting

/-!
# Deleting an instance

An instance is deleted, and the operation waits until it is gone. Deleting an instance that does not
exist succeeds at once.
-/

namespace Reconciler

/-- Deletes an instance and waits until it is gone. -/
def deleteInstance (t : Tuning) (observed : InstanceState) : Task Unit := ExceptT.mk do
  match ← Program.request observed.region (.deleteServer observed.id) with
  | .ok _ =>
    let deadline ← deadlineAfter t.timeouts.delete
    (awaitGone t observed.region observed.id deadline).run
  | .error e =>
    if e.isNotFound then return .ok () else return .error (.remote "delete instance" e)

end Reconciler
