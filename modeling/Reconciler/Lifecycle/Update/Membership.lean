import Reconciler.EditScript
import Reconciler.Lifecycle.Basic

/-!
# Security groups and volumes

The groups an instance belongs to and the volumes attached to it are brought to the desired sets
step by step, as their edit script says. The set of what is done so far is carried along.
-/

namespace Reconciler

/-- Performs the steps of an edit script one by one; the set after the last. -/
def performEdits (perform : Edit → Task Unit) : List Edit → IdSet → Task IdSet
  | [], s => return s
  | e :: es, s => do
    perform e
    performEdits perform es (e.apply s)

/-- Puts an instance into a security group or takes it out. -/
def editGroup (region : Region) (instanceId : InstanceId) : Edit → Task Unit
  | .add id => ask region (.joinGroup instanceId id) ("add security group " ++ id)
  | .remove id => ask region (.leaveGroup instanceId id) ("remove security group " ++ id)

/-- Attaches a volume to an instance or detaches it. -/
def editVolume (region : Region) (instanceId : InstanceId) : Edit → Task Unit
  | .add id => ask region (.attachVolume instanceId id) ("attach volume " ++ id)
  | .remove id => ask region (.detachVolume instanceId id) ("detach volume " ++ id)

/-- Brings the security groups of an instance to the desired ones. -/
def convergeGroups (observed : InstanceState) (desired : InstanceSpec) : Task IdSet :=
  performEdits (editGroup observed.region observed.id)
    (editScript desired.securityGroups observed.securityGroups) observed.securityGroups

/-- Brings the volumes of an instance to the desired ones. -/
def convergeVolumes (observed : InstanceState) (desired : InstanceSpec) : Task IdSet :=
  performEdits (editVolume observed.region observed.id)
    (editScript desired.volumes observed.volumes) observed.volumes

end Reconciler
