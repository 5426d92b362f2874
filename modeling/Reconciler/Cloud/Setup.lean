import Reconciler.Cloud.State

/-!
# Setting a cloud up

The ways to bring a cloud in memory into a state: what is in it, what will be reported, and which
calls will fail. None of them is a call, so none is written into the journal.
-/

namespace Reconciler.Cloud

/-- Adds a network with one subnet. -/
def addNetwork (c : Cloud) (id name subnetId : String) : Cloud :=
  { c with
    networks := c.networks ++ [{ id, name, subnets := [{ id := subnetId, networkId := id }] }] }

/-- Adds a network without a subnet. -/
def addNetworkWithoutSubnet (c : Cloud) (id name : String) : Cloud :=
  { c with networks := c.networks ++ [{ id, name }] }

/-- Adds a server that no task made. -/
def addServer (c : Cloud) (detail : ServerDetail) : Cloud :=
  { c with servers := c.servers ++ [{ detail }] }

/-- Puts a port of a server on the first subnet of a network. There is no such port when the network
does not exist or has no subnet. -/
def addPort? (c : Cloud) (networkId serverId portId ip : String) (portSecurity : Bool) :
    Option Cloud :=
  match (c.networks.find? (·.id = networkId)).bind (·.subnets.head?) with
  | none => none
  | some s =>
    let record : AddressRecord := { ip, portId, subnetId := s.id, portSecurity }
    some { c with networks := mapFirst (·.id = networkId) (·.addRecord serverId record) c.networks }

/-- Why a port cannot be put on a network. -/
def addPortRefusal (networkId : String) : String :=
  "network " ++ networkId ++ " must exist with a subnet"

/-- Adds a volume that is attached to nothing. -/
def addVolume (c : Cloud) (id : String) : Cloud := { c with volumes := c.volumes ++ [{ id }] }

/-- Says whether a server holds a public address. What was said of it before is dropped, and the new
record stands last. -/
def setPublicIp (c : Cloud) (serverId : String) (hasPublicIp : Bool) : Cloud :=
  { c with
    publicIps := c.publicIps.filter (·.serverId ≠ serverId) ++ [{ serverId, hasPublicIp }] }

/-- Binds a floating address. -/
def bindFloatingIp (c : Cloud) (serverId portId : String) (record : FloatingIp) : Cloud :=
  { c with floatingIps := c.floatingIps ++ [{ serverId, portId, record }] }

/-- Lets the next looks at a server find some statuses, after those it already has to find. -/
def scriptStatuses (c : Cloud) (serverId : String) (statuses : List Status) : Cloud :=
  { c with
    servers := mapFirst (·.detail.id = serverId)
      (fun s => { s with script := s.script ++ statuses }) c.servers }

/-- Says which statuses looks at a server made from now on find. -/
def setCreationStatuses (c : Cloud) (statuses : List Status) : Cloud :=
  { c with creationScript := statuses }

/-- Says which status a server has after it was powered on. -/
def setPowerOnStatus (c : Cloud) (status : Status) : Cloud := { c with powerOnStatus := status }

/-- Lets the identifier of a server made from now on be told only by its task. -/
def hideIdUntilInquiry (c : Cloud) : Cloud := { c with hidesIdUntilInquiry := true }

/-- Lets the next calls under a key fail, after those that are already to fail. -/
def failTimes (c : Cloud) (key : String) (e : RemoteError) (times : Nat) : Cloud :=
  let queued := (c.failures.find? key).getD []
  { c with failures := c.failures.insert key (queued ++ List.replicate times e) }

/-- Lets the next call under a key fail. -/
def failNext (c : Cloud) (key : String) (e : RemoteError) : Cloud := c.failTimes key e 1

/-- Forgets which calls were made. -/
def clearCalls (c : Cloud) : Cloud := { c with journal := [] }

end Reconciler.Cloud
