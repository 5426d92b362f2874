import Reconciler.Ids.Set

/-!
# The configuration of an instance

What a caller asks of an instance: its identity in the region, its plan, and the networks, volumes,
security groups and floating address it is to be attached to. `NetworkRequest.satisfiedBy` says when
an attachment that exists already gives what a request asks for.
-/

namespace Reconciler

/-- The provider's identifier of an instance, handed out once at its creation. -/
abbrev InstanceId := String

/-- The region an instance lives in. -/
abbrev Region := String

/-- The identifier of a creation that is still going on. -/
abbrev TaskId := String

/-- A request to attach an instance to a private network. -/
structure NetworkRequest where
  /-- The network to attach to. -/
  networkId : String
  /-- The address asked for; without one the provider picks it. -/
  ip : Option String := none
  /-- Whether the port is to filter source addresses. -/
  portSecurity : Bool := false
  deriving DecidableEq, Inhabited

/-- An attachment of an instance to a private network. -/
structure NetworkAttachment where
  /-- The network the attachment belongs to. -/
  networkId : String
  /-- The subnet the address comes from. -/
  subnetId : String := ""
  /-- The port that carries the address; empty as long as there is none. -/
  portId : String := ""
  /-- The address. -/
  ip : String := ""
  /-- Whether the address can be reached from outside. -/
  isPublic : Bool := false
  /-- Whether the port filters source addresses. -/
  portSecurity : Bool := false
  deriving DecidableEq, Inhabited

/-- A floating address bound to the port of one of the networks of an instance. -/
structure FloatingIpBinding where
  /-- The floating address. -/
  floatingIpId : String
  /-- The network whose port it is bound to. -/
  networkId : String
  deriving DecidableEq, Inhabited

namespace NetworkAttachment

/-- The attachment to a network on which the instance has no port. -/
def unattached (networkId : String) : NetworkAttachment := { networkId }

/-- An attachment counts as such once there is a port. -/
def isAttached (a : NetworkAttachment) : Bool := a.portId ≠ ""

end NetworkAttachment

namespace NetworkRequest

/-- The request for `address`. -/
def withIp (r : NetworkRequest) (address : String) : NetworkRequest := { r with ip := some address }

/-- The request for a port with that filter setting. -/
def withPortSecurity (r : NetworkRequest) (enabled : Bool) : NetworkRequest :=
  { r with portSecurity := enabled }

/-- An attachment satisfies a request when it is one to that network, has a port, filters as asked,
and has the address asked for. A request without an address takes any. -/
def satisfiedBy (r : NetworkRequest) (a : NetworkAttachment) : Bool :=
  r.networkId = a.networkId && a.isAttached && r.portSecurity = a.portSecurity &&
    r.ip.all (· = a.ip)

end NetworkRequest

/-- Flavors whose identifier begins like this keep their root disk on the host. -/
def localStorageMark : String := "ls"

/-- Whether a flavor keeps the root disk on the host. -/
def isLocalStorageFlavor (flavorId : String) : Bool := flavorId.startsWith localStorageMark

/-- The configuration an instance is to have. -/
structure InstanceSpec where
  /-- The region. -/
  region : Region := ""
  /-- The display name. -/
  name : String := ""
  /-- The boot image. -/
  imageId : String := ""
  /-- The flavor. -/
  flavorId : String := ""
  /-- The size of the root disk in gigabytes. -/
  diskSize : Nat := 0
  /-- The script run at the first boot. -/
  initScript : Option String := none
  /-- The key injected at creation. -/
  sshKeyName : Option String := none
  /-- The security groups. -/
  securityGroups : IdSet := ∅
  /-- The private networks in the order of attachment. -/
  networks : List NetworkRequest := []
  /-- The volumes. -/
  volumes : IdSet := ∅
  /-- The floating address. -/
  floatingIp : Option FloatingIpBinding := none
  /-- The placement group. -/
  serverGroupId : Option String := none
  /-- The dedicated host. -/
  dedicatedServerId : Option String := none
  /-- The snapshot to go back to. -/
  revertToSnapshotId : Option String := none
  /-- The snapshot the root disk is made from. -/
  snapshotId : Option String := none
  /-- Whether a public address of version 4 is wanted. -/
  enableIpv4 : Bool := false
  /-- Whether a public address of version 6 is wanted. -/
  enableIpv6 : Bool := false
  deriving DecidableEq, Inhabited

namespace InstanceSpec

/-- Whether the flavor keeps the root disk on the host. -/
def usesLocalStorage (s : InstanceSpec) : Bool := isLocalStorageFlavor s.flavorId

/-- The first request for a network. -/
def network? (s : InstanceSpec) (networkId : String) : Option NetworkRequest :=
  s.networks.find? (·.networkId = networkId)

end InstanceSpec

end Reconciler
