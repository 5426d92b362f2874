import Reconciler.Lifecycle.Waiting

/-!
# Changes that need the instance off

A new flavor and a larger root disk are given to an instance that is powered off. Each of the two
phases has one deadline for its two waits.

## The model

A new flavor is followed by a call to power the instance on. A larger root disk is not: the provider
powers the instance on by itself once the disk has grown, and the phase waits for that.
-/

namespace Reconciler

/-- Gives an instance the desired flavor, if it has another: off, resize, on. Answers its status. -/
def resizeFlavor (t : Tuning) (observed : InstanceState) (desired : InstanceSpec) :
    Task Status := do
  if observed.applied.flavorId = desired.flavorId then return observed.status
  let region := observed.region
  let id := observed.id
  let deadline ← deadlineAfter t.timeouts.update
  ask region (.powerOff id) "power off instance"
  awaitStatus t region id .shutoff "power off" deadline
  ask region (.resizeServer id desired.flavorId) "resize instance"
  ask region (.powerOn id) "power on instance"
  awaitStatus t region id .active "power on" deadline
  return .active

/-- Why a root disk cannot be given the desired size, if it cannot. -/
def rootDiskRefusal? (observed : InstanceState) (desired : InstanceSpec) : Option Failure :=
  if desired.usesLocalStorage then
    some (.unsupportedFor "root volume of a local storage flavor cannot be resized")
  else if desired.diskSize < observed.applied.diskSize then
    some (.unsupportedFor ("new size must be greater than old size (" ++
      toString desired.diskSize ++ " < " ++ toString observed.applied.diskSize ++ " GB)"))
  else none

/-- Gives the root disk of an instance the desired size, if it has another. An instance that runs by
now is powered off for it. Answers the status that it then has. -/
def growRootDisk (t : Tuning) (observed : InstanceState) (status : Status)
    (desired : InstanceSpec) : Task Status := do
  if observed.applied.diskSize = desired.diskSize then return status
  match rootDiskRefusal? observed desired with
  | some refusal => throw refusal
  | none =>
    let region := observed.region
    let id := observed.id
    let deadline ← deadlineAfter t.timeouts.update
    if status = .active then
      ask region (.powerOff id) "power off instance"
    awaitStatus t region id .shutoff "power off" deadline
    ask region (.resizeRootVolume id desired.diskSize) "resize root volume"
    awaitStatus t region id .active "root volume resize" deadline
    return .active

end Reconciler
