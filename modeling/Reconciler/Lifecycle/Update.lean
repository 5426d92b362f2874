import Reconciler.Lifecycle.Update.FloatingIp
import Reconciler.Lifecycle.Update.Guard
import Reconciler.Lifecycle.Update.Membership
import Reconciler.Lifecycle.Update.Networks
import Reconciler.Lifecycle.Update.Power

/-!
# Updating an instance

An existing instance is brought from its tracked state to a desired configuration, in a fixed order:
the name, the security groups, the flavor, the volumes, the networks, the root disk, the floating
address, the snapshot. The first step that fails ends the update.

## The model

Each step is a task of its own that answers what it brought about; `updateInstance` puts the answers
together. Nothing is done for what is already as desired.
-/

namespace Reconciler

/-- Gives an instance the desired name, if it has another. -/
def rename (observed : InstanceState) (desired : InstanceSpec) : Task Unit :=
  if observed.applied.name = desired.name then return ()
  else ask observed.region (.renameServer observed.id desired.name) "rename instance"

/-- Takes an instance back to the desired snapshot, if one is asked for that was not before. -/
def revertSnapshot (observed : InstanceState) (desired : InstanceSpec) : Task Unit :=
  if observed.applied.revertToSnapshotId = desired.revertToSnapshotId then return ()
  else
    match desired.revertToSnapshotId with
    | none => return ()
    | some snapshotId =>
      ask observed.region (.revertSnapshot observed.id snapshotId)
        ("revert to snapshot " ++ snapshotId)

/-- The steps of an update, after its guard. -/
def convergeExisting (t : Tuning) (observed : InstanceState) (desired : InstanceSpec) :
    Task InstanceState := do
  rename observed desired
  let securityGroups ← convergeGroups observed desired
  let resized ← resizeFlavor t observed desired
  let volumes ← convergeVolumes observed desired
  let networks ← convergeNetworks observed desired
  let status ← growRootDisk t observed resized desired
  let floatingIp ← convergeFloatingIp observed networks desired
  revertSnapshot observed desired
  return { observed with
    status
    applied := desired
    networks
    volumes
    securityGroups
    floatingIp }

/-- Brings an instance from its tracked state to a desired configuration. -/
def updateInstance (t : Tuning) (observed : InstanceState) (desired : InstanceSpec) :
    Task InstanceState :=
  match immutableViolations observed.applied desired with
  | [] => convergeExisting t observed desired
  | reasons => throw (.unsupported reasons)

end Reconciler
