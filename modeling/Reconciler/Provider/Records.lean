import Reconciler.Ids.Map
import Reconciler.Instance.Status

/-!
# Records exchanged with a provider

What the calls of a provider take and answer. Every field has the value it takes when a provider
says nothing about it.
-/

namespace Reconciler

/-- The order for a new instance. -/
structure CreateServerRequest where
  /-- The display name. -/
  name : String := ""
  /-- How many instances are ordered. -/
  count : Nat := 0
  /-- The boot image. -/
  imageId : String := ""
  /-- The flavor. -/
  flavorId : String := ""
  /-- The networks to attach at boot, in order. -/
  networkIds : List String := []
  /-- The security groups at boot. -/
  securityGroups : List String := []
  /-- Whether a key is injected. -/
  sshKey : Bool := false
  /-- The injected key. -/
  keyName : Option String := none
  /-- The size of the root disk in gigabytes. -/
  diskSize : Nat := 0
  /-- The script run at the first boot. -/
  initScript : Option String := none
  /-- The placement group. -/
  serverGroupId : Option String := none
  /-- The dedicated host. -/
  dedicatedServerId : Option String := none
  /-- The snapshot the root disk is made from. -/
  snapshotId : Option String := none
  /-- Whether a public address of version 4 is allocated. -/
  enableIpv4 : Bool := false
  /-- Whether a public address of version 6 is allocated. -/
  enableIpv6 : Bool := false
  deriving DecidableEq, Inhabited

/-- The answer to an order for a new instance. -/
structure CreatedServer where
  /-- The identifier; empty when it is made known only by the task. -/
  id : String := ""
  /-- The task to inquire about; empty when there is none. -/
  taskId : String := ""
  /-- The initial password. -/
  password : String := ""
  /-- The status at the time of the answer. -/
  status : Status := .build
  deriving DecidableEq, Inhabited

/-- An address of an instance. -/
structure ServerAddress where
  /-- The address. -/
  addr : String := ""
  /-- Whether it can be reached from outside. -/
  isPublic : Bool := false
  deriving DecidableEq, Inhabited

/-- The addresses of an instance, by the name of their network. -/
abbrev AddressBook := IdMap (List ServerAddress)

/-- What a provider reports of an instance. -/
structure ServerDetail where
  /-- The identifier. -/
  id : String := ""
  /-- The display name. -/
  name : String := ""
  /-- The status. -/
  status : Status := .build
  /-- The flavor, if reported. -/
  flavorId : Option String := none
  /-- The image, if reported. -/
  imageId : Option String := none
  /-- The cluster; empty when not reported. -/
  clusterId : String := ""
  /-- The dedicated host; empty when there is none. -/
  dedicatedServerId : String := ""
  /-- The security groups. -/
  securityGroupIds : List String := []
  /-- The addresses; absent when the instance has none yet. -/
  addresses : Option AddressBook := none
  deriving DecidableEq, Inhabited

/-- An address record of an instance on a subnet. -/
structure AddressRecord where
  /-- The address. -/
  ip : String := ""
  /-- The port that carries it. -/
  portId : String := ""
  /-- The subnet it comes from. -/
  subnetId : String := ""
  /-- Whether it can be reached from outside. -/
  isPublic : Bool := false
  /-- Whether the port filters source addresses. -/
  portSecurity : Bool := false
  deriving DecidableEq, Inhabited

/-- An entry for an instance in the listing of a subnet. -/
structure SubnetServer where
  /-- The instance. -/
  id : String := ""
  /-- Its address records. -/
  ips : List AddressRecord := []
  deriving DecidableEq, Inhabited

/-- A subnet of a network. -/
structure Subnet where
  /-- The identifier. -/
  id : String := ""
  /-- The network it belongs to. -/
  networkId : String := ""
  /-- The instances with an address on it. -/
  servers : List SubnetServer := []
  deriving DecidableEq, Inhabited

/-- A network with its subnets, instances and address records. -/
structure Network where
  /-- The identifier. -/
  id : String := ""
  /-- The name, which is the key in address books. -/
  name : String := ""
  /-- The subnets in the provider's order. -/
  subnets : List Subnet := []
  deriving DecidableEq, Inhabited

/-- The order to attach an instance to a network. -/
structure AttachRequest where
  /-- The instance. -/
  serverId : String := ""
  /-- The subnet the address is to come from. -/
  subnetId : String := ""
  /-- The address asked for, if any. -/
  ip : Option String := none
  /-- Whether the new port is to filter source addresses. -/
  portSecurity : Bool := false
  deriving DecidableEq, Inhabited

/-- The port made by an attachment. -/
structure AttachedPort where
  /-- The port. -/
  id : String := ""
  /-- The address. -/
  ipAddress : String := ""
  /-- The network. -/
  networkId : String := ""
  /-- The subnet. -/
  subnetId : String := ""
  deriving DecidableEq, Inhabited

/-- An attachment of a volume. -/
structure VolumeAttachment where
  /-- The instance the volume is attached to. -/
  serverId : String := ""
  deriving DecidableEq, Inhabited

/-- A volume. -/
structure Volume where
  /-- The identifier. -/
  id : String := ""
  /-- The attachments. -/
  attachments : List VolumeAttachment := []
  deriving DecidableEq, Inhabited

/-- Whether an instance holds a public address. -/
structure PublicIpRecord where
  /-- The instance. -/
  serverId : String := ""
  /-- Whether it holds one. -/
  hasPublicIp : Bool := false
  deriving DecidableEq, Inhabited

/-- The order to bind a floating address to a port. -/
structure FloatingIpRequest where
  /-- The instance. -/
  serverId : String := ""
  /-- The subnet of the port. -/
  subnetId : String := ""
  /-- The port. -/
  portId : String := ""
  deriving DecidableEq, Inhabited

/-- A floating address that is bound to an instance. -/
structure FloatingIp where
  /-- The identifier. -/
  id : String := ""
  /-- The address. -/
  address : String := ""
  /-- The addresses of the instance, by the name of their network. -/
  serverAddresses : AddressBook := ∅
  deriving DecidableEq, Inhabited

end Reconciler
