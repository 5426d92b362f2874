import Reconciler.Instance.Spec
import Reconciler.Provider.Records

/-!
# The calls of a provider

A provider is driven through twenty-four calls, each a single question with a single answer. A
`Method` is a kind of call; it fixes the type of the answer, its path in the provider's interface,
and the key under which an operator counts such calls. A `Call` is a method with its arguments.

## The model

The region a call goes to stands beside the call and not in it. Calls that only look at the provider
are told from those that change it by `Method.isMutating`.
-/

namespace Reconciler

/-- A kind of call. -/
inductive Method where
  /-- Orders a new instance. -/
  | createServer
  /-- Looks an instance up. -/
  | getServer
  /-- Looks up the instance a creation task makes. -/
  | inquireTask
  /-- Deletes an instance. -/
  | deleteServer
  /-- Changes the flavor of a stopped instance. -/
  | resizeServer
  /-- Grows the root disk of a stopped instance. -/
  | resizeRootVolume
  /-- Powers an instance off. -/
  | powerOff
  /-- Powers an instance on. -/
  | powerOn
  /-- Renames an instance. -/
  | renameServer
  /-- Lists the networks of the region. -/
  | listNetworks
  /-- Attaches an instance to a network. -/
  | attachNetwork
  /-- Detaches an instance from the network of a port. -/
  | detachNetwork
  /-- Makes a port filter source addresses. -/
  | enablePortSecurity
  /-- Makes a port let every source address through. -/
  | disablePortSecurity
  /-- Attaches a volume. -/
  | attachVolume
  /-- Detaches a volume. -/
  | detachVolume
  /-- Lists the volumes of the region. -/
  | listVolumes
  /-- Puts an instance into a security group. -/
  | joinGroup
  /-- Takes an instance out of a security group. -/
  | leaveGroup
  /-- Lists which instances hold a public address. -/
  | listPublicIps
  /-- Binds a floating address to a port. -/
  | attachFloatingIp
  /-- Unbinds the floating address of a port. -/
  | detachFloatingIp
  /-- Looks up the floating address of an instance. -/
  | floatingIpOf
  /-- Takes an instance back to a snapshot. -/
  | revertSnapshot
  deriving DecidableEq, Repr

namespace Method

/-- Every method, in the order of the provider's interface. -/
def all : List Method :=
  [.createServer, .getServer, .inquireTask, .deleteServer, .resizeServer, .resizeRootVolume,
    .powerOff, .powerOn, .renameServer, .listNetworks, .attachNetwork, .detachNetwork,
    .enablePortSecurity, .disablePortSecurity, .attachVolume, .detachVolume, .listVolumes,
    .joinGroup, .leaveGroup, .listPublicIps, .attachFloatingIp, .detachFloatingIp, .floatingIpOf,
    .revertSnapshot]

/-- What a call of the method answers when it succeeds. -/
@[reducible] def Answer : Method → Type
  | .createServer => CreatedServer
  | .getServer => ServerDetail
  | .inquireTask => ServerDetail
  | .deleteServer => Unit
  | .resizeServer => Unit
  | .resizeRootVolume => Unit
  | .powerOff => Unit
  | .powerOn => Unit
  | .renameServer => Unit
  | .listNetworks => List Network
  | .attachNetwork => AttachedPort
  | .detachNetwork => Unit
  | .enablePortSecurity => Unit
  | .disablePortSecurity => Unit
  | .attachVolume => Unit
  | .detachVolume => Unit
  | .listVolumes => List Volume
  | .joinGroup => Unit
  | .leaveGroup => Unit
  | .listPublicIps => List PublicIpRecord
  | .attachFloatingIp => Unit
  | .detachFloatingIp => Unit
  | .floatingIpOf => FloatingIp
  | .revertSnapshot => Unit

/-- The place of a method in the provider's interface: the interface's part and the method's
name. -/
def path : Method → String
  | .createServer => "compute.create_async"
  | .getServer => "compute.get"
  | .inquireTask => "compute.inquiry"
  | .deleteServer => "compute.delete"
  | .resizeServer => "compute.resize"
  | .resizeRootVolume => "compute.resize_root_volume"
  | .powerOff => "compute.power_off"
  | .powerOn => "compute.power_on"
  | .renameServer => "compute.rename"
  | .listNetworks => "network.list_networks"
  | .attachNetwork => "network.attach_server"
  | .detachNetwork => "network.detach_server"
  | .enablePortSecurity => "network.enable_port_security"
  | .disablePortSecurity => "network.disable_port_security"
  | .attachVolume => "volume.attach"
  | .detachVolume => "volume.detach"
  | .listVolumes => "volume.list"
  | .joinGroup => "security_group.add_server"
  | .leaveGroup => "security_group.remove_server"
  | .listPublicIps => "floating_ip.server_ip_info"
  | .attachFloatingIp => "floating_ip.attach"
  | .detachFloatingIp => "floating_ip.detach"
  | .floatingIpOf => "floating_ip.get_by_server_id"
  | .revertSnapshot => "snapshot.revert"

/-- The key under which calls of a method are counted and made to fail. Both settings of the port
filter share one key. -/
def key : Method → String
  | .createServer => "create_async"
  | .getServer => "get"
  | .inquireTask => "inquiry"
  | .deleteServer => "delete"
  | .resizeServer => "resize"
  | .resizeRootVolume => "resize_root_volume"
  | .powerOff => "power_off"
  | .powerOn => "power_on"
  | .renameServer => "rename"
  | .listNetworks => "list_networks"
  | .attachNetwork => "attach_server"
  | .detachNetwork => "detach_server"
  | .enablePortSecurity => "set_port_security"
  | .disablePortSecurity => "set_port_security"
  | .attachVolume => "attach_volume"
  | .detachVolume => "detach_volume"
  | .listVolumes => "list_volumes"
  | .joinGroup => "add_server"
  | .leaveGroup => "remove_server"
  | .listPublicIps => "server_ip_info"
  | .attachFloatingIp => "attach_floating_ip"
  | .detachFloatingIp => "detach_floating_ip"
  | .floatingIpOf => "get_by_server_id"
  | .revertSnapshot => "revert"

/-- Whether a call of the method changes anything at the provider. -/
def isMutating : Method → Bool
  | .getServer | .inquireTask | .listNetworks | .listVolumes | .listPublicIps
  | .floatingIpOf => false
  | _ => true

/-- The method at a place in the provider's interface. -/
def ofPath? (p : String) : Option Method := all.find? (·.path = p)

end Method

/-- A call with its arguments. -/
inductive Call where
  /-- Orders a new instance. -/
  | createServer (request : CreateServerRequest)
  /-- Looks the instance `id` up. -/
  | getServer (id : InstanceId)
  /-- Looks up the instance that the task makes. -/
  | inquireTask (taskId : TaskId)
  /-- Deletes the instance `id`. -/
  | deleteServer (id : InstanceId)
  /-- Gives the instance `id` a flavor. -/
  | resizeServer (id : InstanceId) (flavorId : String)
  /-- Gives the root disk of the instance `id` a size in gigabytes. -/
  | resizeRootVolume (id : InstanceId) (size : Nat)
  /-- Powers the instance `id` off. -/
  | powerOff (id : InstanceId)
  /-- Powers the instance `id` on. -/
  | powerOn (id : InstanceId)
  /-- Gives the instance `id` a name. -/
  | renameServer (id : InstanceId) (name : String)
  /-- Lists the networks. -/
  | listNetworks
  /-- Attaches an instance to a network as the request says. -/
  | attachNetwork (networkId : String) (request : AttachRequest)
  /-- Detaches an instance from the network of a port. -/
  | detachNetwork (portId : String) (serverId : InstanceId)
  /-- Makes a port filter source addresses. -/
  | enablePortSecurity (networkId portId : String)
  /-- Makes a port let every source address through. -/
  | disablePortSecurity (networkId portId : String)
  /-- Attaches a volume to an instance. -/
  | attachVolume (serverId : InstanceId) (volumeId : String)
  /-- Detaches a volume from an instance. -/
  | detachVolume (serverId : InstanceId) (volumeId : String)
  /-- Lists the volumes. -/
  | listVolumes
  /-- Puts an instance into a security group. -/
  | joinGroup (serverId : InstanceId) (groupId : String)
  /-- Takes an instance out of a security group. -/
  | leaveGroup (serverId : InstanceId) (groupId : String)
  /-- Lists which instances hold a public address. -/
  | listPublicIps
  /-- Binds a floating address as the request says. -/
  | attachFloatingIp (floatingIpId : String) (request : FloatingIpRequest)
  /-- Unbinds the floating address of a port. -/
  | detachFloatingIp (portId : String)
  /-- Looks up the floating address of an instance. -/
  | floatingIpOf (serverId : InstanceId)
  /-- Takes an instance back to a snapshot. -/
  | revertSnapshot (serverId : InstanceId) (snapshotId : String)
  deriving DecidableEq

namespace Call

/-- The method of a call. -/
@[reducible] def method : Call → Method
  | .createServer _ => .createServer
  | .getServer _ => .getServer
  | .inquireTask _ => .inquireTask
  | .deleteServer _ => .deleteServer
  | .resizeServer _ _ => .resizeServer
  | .resizeRootVolume _ _ => .resizeRootVolume
  | .powerOff _ => .powerOff
  | .powerOn _ => .powerOn
  | .renameServer _ _ => .renameServer
  | .listNetworks => .listNetworks
  | .attachNetwork _ _ => .attachNetwork
  | .detachNetwork _ _ => .detachNetwork
  | .enablePortSecurity _ _ => .enablePortSecurity
  | .disablePortSecurity _ _ => .disablePortSecurity
  | .attachVolume _ _ => .attachVolume
  | .detachVolume _ _ => .detachVolume
  | .listVolumes => .listVolumes
  | .joinGroup _ _ => .joinGroup
  | .leaveGroup _ _ => .leaveGroup
  | .listPublicIps => .listPublicIps
  | .attachFloatingIp _ _ => .attachFloatingIp
  | .detachFloatingIp _ => .detachFloatingIp
  | .floatingIpOf _ => .floatingIpOf
  | .revertSnapshot _ _ => .revertSnapshot

/-- What a call answers when it succeeds. -/
abbrev Answer (c : Call) : Type := c.method.Answer

/-- Whether a call changes anything at the provider. -/
def isMutating (c : Call) : Bool := c.method.isMutating

end Call

end Reconciler
